import ShaderBundle.Proofs.Registry.Performed
import ShaderBundle.Proofs.Registry.Snapshots

/-!
# Versions, sources and programs

The snapshot that the table keeps for a handle is the one that the program in use was built from,
and its version tells how often the text has changed under the handle.

## Recording an outcome

Of all steps only the one that records an outcome puts anything new into the table, and of its cases
only two put a program there: a name becomes ready for the first time, with a first version under a
new handle, or the entry under a live handle gets a new program. In the second case the snapshot
that was built follows the one of the entry, because no other request was in flight for it
(`Regular.request_ne`); it is the same snapshot, and then nothing is counted, or the next version,
and then one more change is on record. In all other cases entries keep their snapshots, or are gone.

## Changes and versions

A change is counted when a program is replaced by one from another text. Two reloads of the same
text make two programs and no change. The version is one more than the number of changes, as long as
that fits its word; from then on it stays at the greatest number, and so does the formula.

## Main definitions

* `Entry.Renewed`: what the outcome of a request for a new program makes of an entry.

## Main results

* `Service.Accurate.concluded`: snapshots, programs and versions are in step when an outcome is
  recorded.
* `Service.Reached.accurate`: they are in step whatever happens.
* `Service.reached_inStep`: what this means for live handles and for the outcomes of reloads.
-/

namespace ShaderBundle.Service

variable {σ : Type} {backend : Backend σ} {options : RegistryOptions} {service later : Service σ}
  {name : Text} {handle : Handle} {ref : ProgramRef}

/-! ### Outcomes

The outcomes by cases: a failure or a program, for a name or for a handle, and the handle live or
gone. What is common to several cases is that one entry changes (`Accurate.of_entry`) or none
(`Accurate.concluded_of_ready`). -/

/-- Nobody else has a new program built for the handle of an entry. -/
theorem Regular.request_ne (h : service.Regular) {before after : List Errand} {errand : Errand}
    (herrands : service.errands = before ++ errand :: after)
    (hrequest : errand.request = .reload name handle) {entry : Entry}
    (hslot : service.traffic.table.slot? name = some (.ready entry))
    (hhandle : entry.handle = handle)
    {other : Errand} (hother : other ∈ before ++ after) : other.request ≠ .reload name handle := by
  subst hhandle
  intro hsame
  have hreloads := congrArg (List.count (.reload name entry.handle))
    (h.owned.reloading name entry hslot)
  rw [Traffic.reloads, List.count_filter (by simp [Request.handle?])] at hreloads
  -- The entry is marked for one request at most, and that one is in hand.
  have hle : service.traffic.inFlight.count (.reload name entry.handle) ≤ 1 := by
    rw [hreloads]
    split <;> simp
  have hcount := h.requests (.reload name entry.handle)
  have hpos : 0 < ((before ++ after).map Errand.request).count (.reload name entry.handle) :=
    List.count_pos_iff.mpr (List.mem_map.mpr ⟨other, hother, hsame⟩)
  simp only [herrands, List.map_append, List.map_cons, List.count_append, hrequest,
    List.count_cons_self] at hcount hpos
  omega

/-- A handle that was captured and is live is that of the entry under the name. -/
theorem Regular.entry?_eq_none (h : service.Regular) {errand : Errand}
    (hmem : errand ∈ service.errands) (hrequest : errand.request = .reload name handle)
    (hgone : ∀ entry, service.traffic.table.slot? name = some (.ready entry) →
      entry.handle ≠ handle) : service.traffic.table.entry? handle = none := by
  by_contra hlive
  obtain ⟨entry, hentry⟩ := Option.ne_none_iff_exists'.mp hlive
  obtain ⟨other, hname, -, -⟩ := Slots.entry?_eq_some_iff.mp hentry
  obtain ⟨found, hslot, hhandle, -⟩ := h.owned.entry_of_reload (hrequest ▸ h.mem_inFlight hmem)
    (by simp [hname])
  exact hgone found hslot hhandle

/-- A handle that a request captured was made. -/
theorem Regular.mem_minted (h : service.Regular) {errand : Errand} (hmem : errand ∈ service.errands)
    (hrequest : errand.request = .reload name handle) : handle ∈ service.traffic.minted := by
  by_contra hmade
  have hreload : Request.reload name handle ∈ service.traffic.reloads handle :=
    List.mem_filter.mpr ⟨hrequest ▸ h.mem_inFlight hmem, by simp [Request.handle?]⟩
  simp [(h.owned.unmade handle hmade).2.2.2] at hreload

theorem Accurate.changes_of_notMem (h : service.Accurate options)
    (hmade : handle ∉ service.traffic.minted) : service.changes handle = 0 := by
  refine List.countP_eq_zero.mpr fun renewal hrenewal => ?_
  have hne : renewal.handle ≠ handle := fun heq => hmade (heq ▸ h.renewals renewal hrenewal)
  simp [hne]

/-- The entry under one name is a new one. -/
theorem Accurate.of_entry (h : service.Accurate options) (entry : Entry)
    (hslots : ∀ other, later.traffic.table.slot? other =
      if other = name then some (.ready entry) else service.traffic.table.slot? other)
    (hname : entry.source.name = name)
    (hprogram : ∃ bundle, (entry.program, ⟨entry.source, bundle⟩) ∈ service.built)
    (hversion : entry.source.version = min (1 + later.changes entry.handle) Source.lastVersion)
    (hothers : ∀ other ≠ name, ∀ found, service.traffic.table.slot? other = some (.ready found) →
      later.changes found.handle = service.changes found.handle)
    (hbuilt : later.built = service.built)
    (hrenewals : ∀ renewal ∈ later.renewals, renewal.handle ∈ later.traffic.minted)
    (herrands : ∀ errand ∈ later.errands,
      errand ∈ service.errands ∧ ∀ name handle, errand.request = .reload name handle →
        handle ≠ entry.handle) : later.Accurate options := by
  -- Entries behind the change are the new one, or those under other names.
  have hready : ∀ other found, later.traffic.table.slot? other = some (.ready found) →
      (other = name ∧ found = entry) ∨
        (other ≠ name ∧ service.traffic.table.slot? other = some (.ready found)) := by
    intro other found hfound
    rw [hslots] at hfound
    split at hfound
    · next hother => exact .inl ⟨hother, by simpa using hfound.symm⟩
    · next hother => exact .inr ⟨hother, hfound⟩
  refine ⟨hbuilt ▸ h.built, fun other found hfound => ?_, fun other found hfound => ?_,
    fun other error source hfound => ?_, fun errand herrand => ?_, hrenewals⟩
  · rw [hbuilt]
    rcases hready other found hfound with ⟨rfl, rfl⟩ | ⟨-, hold⟩
    · exact ⟨hname, hprogram⟩
    · exact h.entries other found hold
  · rcases hready other found hfound with ⟨rfl, rfl⟩ | ⟨hne, hold⟩
    · exact hversion
    · rw [hothers other hne found hold]
      exact h.versions other found hold
  · rw [hslots] at hfound
    split at hfound
    · simp at hfound
    · exact h.failures other error source hfound
  · obtain ⟨hmem, hne⟩ := herrands errand herrand
    rw [hbuilt]
    refine (h.errands errand hmem).mono (fun other handle hrequest found hfound hhandle => ?_)
      (List.Subset.refl _)
    -- No request in flight has captured the new entry, and the others find what they have found
    -- before.
    rcases hready other found hfound with ⟨-, rfl⟩ | ⟨-, hold⟩
    · exact absurd hhandle.symm (hne other handle hrequest)
    · exact ⟨found, hold, hhandle, rfl⟩

/-- Requests in flight but one. -/
theorem mem_errands_of_mem {before after : List Errand} {errand other : Errand}
    (herrands : service.errands = before ++ errand :: after) (hother : other ∈ before ++ after) :
    other ∈ service.errands := by
  rw [herrands]
  exact ((List.sublist_cons_self errand after).append_left before).subset hother

section Concluded

variable {before after : List Errand} {errand : Errand}

theorem changes_concluded (before after : List Errand) (request : Request) (outcome : Outcome) :
    (service.concluded before after request outcome).changes handle = service.changes handle +
      (service.traffic.table.renewals request outcome).countP fun renewal =>
        renewal.handle = handle ∧ renewal.before.text ≠ renewal.after.text := by
  rw [changes, Service.concluded, List.countP_append]
  rfl

/-- Entries are inherited when an outcome is recorded. -/
theorem Accurate.concluded_of_ready (h : service.Accurate options)
    (herrands : service.errands = before ++ errand :: after) {request : Request} {outcome : Outcome}
    (hready : ∀ name entry,
      (service.traffic.after (request.conclusion outcome)).table.slot? name = some (.ready entry) →
        ∃ old, service.traffic.table.slot? name = some (.ready old) ∧ old.handle = entry.handle ∧
          old.source = entry.source ∧ old.program = entry.program)
    (hfailures : ∀ name error source,
      (service.traffic.after (request.conclusion outcome)).table.slot? name =
        some (.failed error (some source)) → source.name = name)
    (hrenewals : service.traffic.table.renewals request outcome = []) :
    (service.concluded before after request outcome).Accurate options := by
  refine h.of_ready hready hfailures (service.traffic.minted_subset_after _)
    ⟨[], (List.append_nil _).symm, fun _ hmem => nomatch hmem⟩ ?_ fun other hother => ?_
  · rw [Service.concluded, hrenewals, List.append_nil]
  · exact (h.errands other (mem_errands_of_mem herrands hother)).of_ready hready
      (List.Subset.refl _)

/-- The first outcome for a name is recorded, and it is a failure. -/
theorem Accurate.settle_error (h : service.Accurate options) {failure : Failure}
    (herrands : service.errands = before ++ errand :: after)
    (hprogress : errand.progress = .finished (.error failure))
    (hrequest : errand.request = .acquire name) :
    (service.concluded before after (.acquire name) (.error failure)).Accurate options := by
  have herrand := h.errands errand (herrands ▸ List.mem_append_right _ List.mem_cons_self)
  -- The name is unloaded or has failed. No entry changes.
  have hslots : ∃ slot : Option Slot, (∀ entry, slot ≠ some (.ready entry)) ∧
      (∀ error source, slot = some (.failed error (some source)) → source.name = name) ∧
      ∀ other, (service.traffic.after (.settle name (.error failure))).table.slot? other =
        if other = name then slot else service.traffic.table.slot? other := by
    by_cases htransient : failure.error.isTransient
    · refine ⟨none, by simp, by simp, fun other => ?_⟩
      rw [Traffic.table_settle, Slots.settle, if_pos htransient, Slots.slot?_erase]
    · refine ⟨some (.failed failure.error failure.source), by simp, fun error source hfailed => ?_,
        fun other => ?_⟩
      · obtain ⟨-, hsource⟩ : failure.error = error ∧ failure.source = some source := by
          simpa using hfailed
        exact (herrand.failed failure source hprogress hsource).trans
          (congrArg Request.name hrequest)
      · rw [Traffic.table_settle, Slots.settle, if_neg htransient, Slots.slot?_set]
  obtain ⟨slot, hready, hfailed, hslots⟩ := hslots
  refine h.concluded_of_ready herrands (fun other found hfound => ?_)
    (fun other error source hfound => ?_) rfl
  · rw [Request.conclusion, hslots] at hfound
    split at hfound
    · exact absurd hfound (hready found)
    · exact ⟨found, hfound, rfl, rfl, rfl⟩
  · rw [Request.conclusion, hslots] at hfound
    split at hfound
    · next hother => exact hother ▸ hfailed error source hfound
    · exact h.failures other error source hfound

/-- The first outcome for a name is recorded, and it is a program. -/
theorem Accurate.settle_ok (h : service.Accurate options) (hregular : service.Regular)
    {source : Source} (herrands : service.errands = before ++ errand :: after)
    (hprogress : errand.progress = .finished (.ok (source, ref)))
    (hrequest : errand.request = .acquire name) :
    (service.concluded before after (.acquire name) (.ok (source, ref))).Accurate options := by
  have herrand := h.errands errand (herrands ▸ List.mem_append_right _ List.mem_cons_self)
  obtain ⟨hname, hfollows, hbuilt⟩ := herrand.finished source ref hprogress
  rw [herrand.acquire name hrequest] at hfollows
  let handle : Handle := ⟨service.traffic.table.issued + 1⟩
  -- The handle is new, so no change is on record for it, and the version is a first one.
  have hfresh : handle ∉ service.traffic.minted := hregular.owned.next_notMem
  have hchanges : ∀ other, (service.concluded before after (.acquire name)
      (.ok (source, ref))).changes other = service.changes other := fun other => by
    rw [changes_concluded]
    rfl
  refine h.of_entry ⟨handle, source, ref, 1, false⟩ (fun other => ?_)
    (hname.trans (congrArg Request.name hrequest)) hbuilt ?_
    (fun _ _ found _ => hchanges found.handle)
    rfl (fun renewal hrenewal => ?_) fun other hother => ?_
  · exact Slots.slot?_set _ name _ other
  · rw [hchanges, h.changes_of_notMem hfresh, show source.version = 1 from hfollows]
    rfl
  · exact service.traffic.minted_subset_after _
      (h.renewals renewal (by simpa [Service.concluded, Slots.renewals] using hrenewal))
  · have hmem := mem_errands_of_mem herrands hother
    refine ⟨hmem, fun other captured hreload heq => hfresh ?_⟩
    rw [show handle = captured from heq.symm]
    exact hregular.mem_minted hmem hreload

/-- The outcome for a handle is recorded, and it is a program. -/
theorem Accurate.replace_ok (h : service.Accurate options) (hregular : service.Regular)
    {source : Source} (herrands : service.errands = before ++ errand :: after)
    (hprogress : errand.progress = .finished (.ok (source, ref)))
    (hrequest : errand.request = .reload name handle) {entry : Entry}
    (hslot : service.traffic.table.slot? name = some (.ready entry))
    (hhandle : entry.handle = handle) :
    (service.concluded before after (.reload name handle) (.ok (source, ref))).Accurate
      options := by
  have hmem : errand ∈ service.errands := herrands ▸ List.mem_append_right _ List.mem_cons_self
  have herrand := h.errands errand hmem
  obtain ⟨hname, hfollows, hbuilt⟩ := herrand.finished source ref hprogress
  rw [herrand.reload name handle hrequest entry hslot hhandle] at hfollows
  subst hhandle
  -- The entry is live, and the request has read its text against the snapshot of this entry.
  have hlive : service.traffic.table.name? entry.handle = some name :=
    (hregular.owned.live _ name).mpr ⟨entry, hslot, rfl⟩
  have hentry : service.traffic.table.entry? entry.handle = some entry :=
    Slots.entry?_eq_some_iff.mpr ⟨name, hlive, hslot, rfl⟩
  have hrenewals : service.traffic.table.renewals (.reload name entry.handle) (.ok (source, ref)) =
      [⟨entry.handle, entry.source, source⟩] := by
    simp [Slots.renewals, hentry]
  refine h.of_entry { entry with source, program := ref, reloading := false }
    (fun other => ?_) (hname.trans (congrArg Request.name hrequest)) hbuilt ?_
    (fun other hother found hfound => ?_) rfl (fun renewal hrenewal => ?_) fun other hother => ?_
  · rcases service.traffic.table.replace_cases name entry.handle (.ok (source, ref)) with
      ⟨found, hfound, -, ⟨_, _, houtcome, hreplace⟩ | ⟨_, houtcome, -⟩⟩ | ⟨hgone, -⟩
    · obtain rfl : entry = found := by simpa [hslot] using hfound
      obtain ⟨rfl, rfl⟩ := Prod.ext_iff.mp (Except.ok.inj houtcome)
      change (service.traffic.table.replace name entry.handle (.ok (source, ref))).2.slot? other = _
      rw [hreplace]
      exact Slots.slot?_set _ name _ other
    · simp at houtcome
    · exact absurd rfl (hgone entry hslot)
  -- The version goes up with the number of changes, or both stay.
  · have hversion := h.versions name entry hslot
    change source.version = min (1 + Service.changes _ entry.handle) Source.lastVersion
    rw [changes_concluded, hrenewals]
    rcases hfollows with rfl | ⟨htext, hnext⟩
    · simpa using hversion
    · have hone : ([⟨entry.handle, entry.source, source⟩] : List Renewal).countP (fun renewal =>
          renewal.handle = entry.handle ∧ renewal.before.text ≠ renewal.after.text) = 1 := by
        simp [htext.symm]
      rw [hone, hnext, hversion]
      omega
  -- Other handles have no share in the change.
  · have hne : entry.handle ≠ found.handle := fun heq =>
      hother (hregular.owned.name_eq hfound hslot heq.symm)
    rw [changes_concluded, hrenewals]
    simp [hne]
  · refine service.traffic.minted_subset_after _ ?_
    rw [Service.concluded, hrenewals] at hrenewal
    rcases List.mem_append.mp hrenewal with hold | hnew
    · exact h.renewals renewal hold
    · rw [List.mem_singleton.mp hnew]
      exact hregular.mem_minted hmem hrequest
  · have hmem' := mem_errands_of_mem herrands hother
    refine ⟨hmem', fun name' captured hreload heq => ?_⟩
    obtain rfl : captured = entry.handle := heq
    obtain ⟨found, hfound, hhandle, -⟩ := hregular.owned.entry_of_reload
      (hreload ▸ hregular.mem_inFlight hmem') (by simp [hlive])
    obtain rfl := hregular.owned.name_eq hfound hslot hhandle
    exact hregular.request_ne herrands hrequest hslot rfl hother hreload

/-- The outcome for a request is recorded. -/
theorem Accurate.concluded (h : service.Accurate options) (hregular : service.Regular)
    {outcome : Outcome} (herrands : service.errands = before ++ errand :: after)
    (hprogress : errand.progress = .finished outcome) :
    (service.concluded before after errand.request outcome).Accurate options := by
  have hmem : errand ∈ service.errands := herrands ▸ List.mem_append_right _ List.mem_cons_self
  rcases hrequest : errand.request with name | ⟨name, handle⟩
  · rcases outcome with failure | ⟨source, ref⟩
    · exact h.settle_error herrands hprogress hrequest
    · exact h.settle_ok hregular herrands hprogress hrequest
  -- The handle that was captured may be gone by now, and then nothing is recorded under a name.
  · have hafter : (service.traffic.after (.replace name handle outcome)).table =
        (service.traffic.table.replace name handle outcome).2 := rfl
    rcases service.traffic.table.replace_cases name handle outcome with
      ⟨entry, hslot, hhandle, ⟨source, ref, rfl, -⟩ | ⟨failure, rfl, hreplace⟩⟩ | ⟨hgone, hreplace⟩
    · exact h.replace_ok hregular herrands hprogress hrequest hslot hhandle
    · have hinherits : service.traffic.table.Inherits
          (service.traffic.after (.replace name handle (.error failure))).table := by
        rw [hafter, hreplace]
        exact Slots.inherits_set hslot rfl rfl rfl
      exact h.concluded_of_ready herrands hinherits.ready
        (fun other error source hfound => h.failures _ _ _ (hinherits.failed _ _ _ hfound)) rfl
    · have hinherits : service.traffic.table.Inherits
          (service.traffic.after (.replace name handle outcome)).table := by
        rw [hafter, hreplace]
        exact ⟨service.traffic.table.inherits_refl.ready,
          service.traffic.table.inherits_refl.failed⟩
      refine h.concluded_of_ready herrands hinherits.ready
        (fun other error source hfound => h.failures _ _ _ (hinherits.failed _ _ _ hfound)) ?_
      rcases outcome with failure | ⟨source, ref⟩
      · rfl
      · simp [Slots.renewals, hregular.entry?_eq_none hmem hrequest hgone]

/-- **Whatever happens, snapshots, programs and versions stay in step.** -/
theorem Accurate.step (h : service.Accurate options) (hregular : service.Regular)
    (hstep : Step backend options Loader.Honest service later) : later.Accurate options := by
  cases hstep with
  | enter hplain _ => simpa using h.enter hplain [] fun _ hmem => nomatch hmem
  | acquire hloader _ => exact h.acquire hloader _
  | reload hloader hmark => exact h.reload hloader hmark
  | build herrands hprogress => exact h.builtFor backend options.validate herrands hprogress
  | conclude herrands hprogress => exact h.concluded hregular herrands hprogress
  | sweep isHeld =>
    exact ⟨h.built, h.entries, h.versions, h.failures, fun errand hmem =>
      (h.errands errand hmem).of_ready service.traffic.table.inherits_refl.ready
        (List.Subset.refl _), h.renewals⟩
  | obey _ | submit _ | visit _ _ | unuse | hold _ => exact h.of_thread _

theorem accurate_new (device : σ) : (new device).Accurate options where
  built _ h := nomatch h
  entries _ _ h := nomatch h
  versions _ _ h := nomatch h
  failures _ _ _ h := nomatch h
  errands _ h := nomatch h
  renewals _ h := nomatch h

theorem Reached.accurate {device : σ}
    (h : Reached backend options Loader.Honest (new device) service) :
    service.Accurate options := by
  induction h with
  | refl => exact accurate_new device
  | step hmiddle hstep ih => exact ih.step hmiddle.regular hstep

end Concluded

/-! ### Live handles

What is kept of names is said of handles here, since it is handles that callers have. -/

theorem Regular.entry?_of_slot? (h : service.Regular) {entry : Entry}
    (hslot : service.traffic.table.slot? name = some (.ready entry)) :
    service.traffic.table.entry? entry.handle = some entry :=
  Slots.entry?_eq_some_iff.mpr
    ⟨name, (h.owned.live entry.handle name).mpr ⟨entry, hslot, rfl⟩, hslot, rfl⟩

/-- The program of an outcome that is not recorded yet is not in use. -/
theorem Custody.program_ne (h : service.Custody) {errand : Errand} {source : Source} {entry : Entry}
    (hmem : errand ∈ service.errands) (hprogress : errand.progress = .finished (.ok (source, ref)))
    (hslot : service.traffic.table.slot? name = some (.ready entry)) : ref ≠ entry.program := by
  rintro rfl
  have hheld : 0 < service.traffic.table.held.count entry.program :=
    List.count_pos_iff.mpr (List.mem_append_left _ (Slots.mem_programs_iff.mpr
      ⟨name, entry, Slots.mem_of_slot? hslot, rfl⟩))
  have hwaits : 0 < (service.errands.flatMap (·.progress.programs)).count entry.program :=
    List.count_pos_iff.mpr (List.mem_flatMap.mpr ⟨errand, hmem, by
      rw [hprogress]
      exact List.mem_singleton_self _⟩)
  -- It would be owned twice, by the table and by the outcome.
  have hone := h.once entry.program
  rw [count_refs] at hone
  omega

end ShaderBundle.Service

namespace ShaderBundle

/-- What the outcome of a request for a new program makes of an entry. A text that is the same is
kept with its version, another one is the next version; a failure leaves both and the program. -/
def Entry.Renewed (entry : Entry) : Outcome → Entry → Prop
  | .ok (source, program), later =>
    later = { entry with source, program, reloading := false } ∧ program ≠ entry.program ∧
      (source.text = entry.source.text → source = entry.source) ∧
      (source.text ≠ entry.source.text →
        source.version = min (entry.source.version + 1) Source.lastVersion)
  | .error _, later => later = { entry with reloading := false }

namespace Service

variable {σ : Type} {backend : Backend σ} {options : RegistryOptions} {service : Service σ}

/-- The outcome of a request for a new program is recorded under a live handle. -/
theorem Accurate.renewed (h : service.Accurate options) (hregular : service.Regular)
    (hcustody : service.Custody) {before after : List Errand} {errand : Errand} {outcome : Outcome}
    {name : Text} {handle : Handle} {entry : Entry}
    (herrands : service.errands = before ++ errand :: after)
    (hrequest : errand.request = .reload name handle)
    (hprogress : errand.progress = .finished outcome)
    (hentry : service.traffic.table.entry? handle = some entry) :
    ∃ later, (service.concluded before after errand.request outcome).traffic.table.entry? handle =
      some later ∧ entry.Renewed outcome later := by
  have hmem : errand ∈ service.errands := herrands ▸ List.mem_append_right _ List.mem_cons_self
  have herrand := h.errands errand hmem
  obtain ⟨other, hother, hfound, rfl⟩ := Slots.entry?_eq_some_iff.mp hentry
  obtain ⟨found, hslot, hhandle, -⟩ := hregular.owned.entry_of_reload
    (hrequest ▸ hregular.mem_inFlight hmem) (by simp [hother])
  obtain rfl := hregular.owned.name_eq hslot hfound hhandle
  obtain rfl : found = entry := by simpa [hslot] using hfound
  have hregular' := hregular.concluded herrands outcome
  -- The handle is live behind the outcome too, with what was recorded under the name.
  have hlater : ∀ later : Entry, later.handle = found.handle →
      (service.traffic.table.replace name found.handle outcome).2.slot? name = some (.ready later) →
      (service.concluded before after errand.request outcome).traffic.table.entry? found.handle =
        some later := by
    intro later hhandle hslot'
    have hready : (service.concluded before after errand.request outcome).traffic.table.slot? name =
        some (.ready later) := by
      rw [hrequest]
      exact hslot'
    exact hhandle ▸ hregular'.entry?_of_slot? hready
  rcases service.traffic.table.replace_cases name found.handle outcome with
    ⟨entry, hentry', -, ⟨source, ref, rfl, hreplace⟩ | ⟨failure, rfl, hreplace⟩⟩ | ⟨hgone, -⟩
  · obtain rfl : found = entry := by simpa [hslot] using hentry'
    obtain ⟨-, hfollows, -⟩ := herrand.finished source ref hprogress
    rw [herrand.reload name found.handle hrequest found hslot rfl] at hfollows
    refine ⟨_, hlater { found with source, program := ref, reloading := false } rfl ?_, rfl,
      hcustody.program_ne hmem hprogress hslot, fun htext => ?_, fun htext => ?_⟩
    · rw [hreplace]
      exact (Slots.slot?_set _ name _ name).trans (if_pos rfl)
    · exact hfollows.resolve_right fun hother => hother.1 htext
    · exact (hfollows.resolve_left fun heq => htext (congrArg Source.text heq)).2
  · obtain rfl : found = entry := by simpa [hslot] using hentry'
    refine ⟨_, hlater { found with reloading := false } rfl ?_, rfl⟩
    rw [hreplace]
    exact (Slots.slot?_set _ name _ name).trans (if_pos rfl)
  · exact absurd rfl (hgone found hslot)

/-- What is known of a live handle. -/
theorem Accurate.inStep (h : service.Accurate options) (hcustody : service.Custody)
    {handle : Handle}
    {entry : Entry} (hentry : service.traffic.table.entry? handle = some entry) :
    ∃ bundle, Bundle.split options.split entry.source.name entry.source.text = .ok bundle ∧
      (∀ prepared, (entry.program, prepared) ∈ service.built ↔ prepared = ⟨entry.source, bundle⟩) ∧
      service.registry.stages? handle = some bundle.stages ∧
      service.traffic.table.sourceVersion? handle =
        some (min (1 + service.changes handle) Source.lastVersion) := by
  obtain ⟨name, -, hslot, hhandle⟩ := Slots.entry?_eq_some_iff.mp hentry
  obtain ⟨-, bundle, hbuilt⟩ := h.entries name entry hslot
  have hsplit := h.built _ hbuilt
  have hstages := hcustody.stages? hentry hbuilt
  refine ⟨bundle, hsplit, fun prepared => ⟨fun hother => hcustody.prepared_eq hbuilt hother, ?_⟩,
    hstages, ?_⟩
  · rintro rfl
    exact hbuilt
  · rw [Slots.sourceVersion?, hentry, Option.map_some, ← hhandle]
    exact congrArg some (h.versions name entry hslot)

/-- **Versions, snapshots and programs stay in step.** Whatever happens, the snapshot of a live
handle is the one that its program was built from, so the stages are those of its text, and its
version is one more than the number of times that a program under the handle was replaced by one
from another text. Outcomes of requests for new programs make of an entry what they are to. -/
theorem reached_inStep {device : σ}
    (h : Reached backend options Loader.Honest (.new device) service) :
    (∀ handle entry, service.traffic.table.entry? handle = some entry →
      ∃ bundle, Bundle.split options.split entry.source.name entry.source.text = .ok bundle ∧
        (∀ prepared, (entry.program, prepared) ∈ service.built ↔ prepared =
          ⟨entry.source, bundle⟩) ∧
        service.registry.stages? handle = some bundle.stages ∧
        service.traffic.table.sourceVersion? handle =
          some (min (1 + service.changes handle) Source.lastVersion)) ∧
      ∀ before errand after name handle outcome entry,
        service.errands = before ++ errand :: after → errand.request = .reload name handle →
        errand.progress = .finished outcome → service.traffic.table.entry? handle = some entry →
        ∃ later,
          (service.concluded before after errand.request outcome).traffic.table.entry? handle =
            some later ∧ entry.Renewed outcome later :=
  ⟨fun _ _ hentry => h.accurate.inStep h.custody hentry,
    fun _ _ _ _ _ _ _ herrands hrequest hprogress hentry =>
      h.accurate.renewed h.regular h.custody herrands hrequest hprogress hentry⟩

end Service

namespace Registry.Reachable

variable {σ : Type} {backend : Backend σ} {options : RegistryOptions} {registry : Registry σ}

/-- The stages of a live handle are those of its snapshot. -/
theorem stages? (h : Reachable backend options Loader.Honest registry) {handle : Handle}
    {entry : Entry} (hentry : registry.table.entry? handle = some entry) :
    ∃ bundle, Bundle.split options.split entry.source.name entry.source.text = .ok bundle ∧
      registry.stages? handle = some bundle.stages := by
  obtain ⟨device, service, hreached, -, rfl⟩ := h
  obtain ⟨bundle, hsplit, -, hstages, -⟩ := hreached.accurate.inStep hreached.custody hentry
  exact ⟨bundle, hsplit, hstages⟩

/-- The snapshot of a ready name is one of the name. -/
theorem name_of_ready (h : Reachable backend options Loader.Honest registry) {name : Text}
    {entry : Entry} (hslot : registry.table.slot? name = some (.ready entry)) :
    entry.source.name = name := by
  obtain ⟨device, service, hreached, -, rfl⟩ := h
  exact (hreached.accurate.entries name entry hslot).1

/-- So is that of a failed one. -/
theorem name_of_failed (h : Reachable backend options Loader.Honest registry) {name : Text}
    {error : RegistryError} {source : Source}
    (hslot : registry.table.slot? name = some (.failed error (some source))) :
    source.name = name := by
  obtain ⟨device, service, hreached, -, rfl⟩ := h
  exact hreached.accurate.failures name error source hslot

end Registry.Reachable

/-! ### A text that changes

A text in memory that gets another line, loaded once before and once behind. -/

namespace Registry

/-- The headless backend, with a text behind the name `a`. -/
def shortAround (text : Text) : Surroundings Headless.State where
  backend := Headless.backend Build.acceptAll
  loader := Loader.ofTable [(['a'], text)]

/-- The short file was loaded. Then its text got another line, and it was loaded again. -/
def shortRenewed : Registry Headless.State :=
  (reload (shortAround (Bundle.shortFile ++ ['\n'])) .outside ['a']
    (acquire (shortAround Bundle.shortFile) .outside ['a'] { thread := { device := {} } }).2).2

/-- The entry under the name `a`. -/
def shortEntry : Entry where
  handle := ⟨1⟩
  source := { name := ['a'], text := Bundle.shortFile ++ ['\n'], version := 2 }
  program := ⟨1⟩
  refs := 1
  reloading := false

end Registry

/-- The text under the handle has changed once. -/
theorem Service.reached_inStep_shortRenewed :
    ∃ service : Service Headless.State,
      Service.Reached (Headless.backend Build.acceptAll) {} Loader.Honest (.new {}) service ∧
        service.registry = Registry.shortRenewed ∧ service.changes ⟨1⟩ = 1 ∧
        service.registry.stages? ⟨1⟩ = some [.vertex, .fragment] := by
  -- The registry is a variable at first: elaborating facts about a build would run it.
  have hlive : ∀ registry : Registry Headless.State,
      registry.table.entry? ⟨1⟩ = some Registry.shortEntry →
      Registry.Serves (Headless.backend Build.acceptAll) {} Loader.Honest
        { thread := { device := {} } }
        registry →
      ∃ service : Service Headless.State,
        Service.Reached (Headless.backend Build.acceptAll) {} Loader.Honest (.new {}) service ∧
          service.registry = registry ∧ service.changes ⟨1⟩ = 1 ∧
          service.registry.stages? ⟨1⟩ = some [.vertex, .fragment] := by
    intro registry hentry hserves
    obtain ⟨service, hreached, -, rfl⟩ := hserves (.new {}) rfl rfl
    obtain ⟨bundle, hsplit, -, hstages, hversion⟩ :=
      (Service.reached_inStep hreached).1 ⟨1⟩ Registry.shortEntry hentry
    have hchanges : service.traffic.table.sourceVersion? ⟨1⟩ = some 2 := by
      rw [Slots.sourceVersion?, show service.traffic.table.entry? ⟨1⟩ = _ from hentry]
      rfl
    have hstages' :
        (Bundle.split {} ['a'] (Bundle.shortFile ++ ['\n'])).toOption.map Bundle.stages =
          some [.vertex, .fragment] := by decide +kernel
    refine ⟨service, hreached, rfl, ?_, hstages.trans ?_⟩
    · have hmin := Option.some.inj (hversion.symm.trans hchanges)
      rw [Source.lastVersion] at hmin
      omega
    · rw [← hstages', show Bundle.split {} ['a'] (Bundle.shortFile ++ ['\n']) = _ from hsplit]
      rfl
  refine hlive Registry.shortRenewed (by decide +kernel) ?_
  rw [Registry.shortRenewed]
  exact (Registry.serves_acquire (Registry.shortAround Bundle.shortFile)
    (Loader.ofTable_honest _) ['a'] _).trans
      (Registry.serves_reload (Registry.shortAround (Bundle.shortFile ++ ['\n']))
        (Loader.ofTable_honest _) ['a'] _)

end ShaderBundle
