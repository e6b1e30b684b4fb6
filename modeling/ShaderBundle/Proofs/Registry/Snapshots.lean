import ShaderBundle.Proofs.Registry.Duplicates
import ShaderBundle.Proofs.Registry.Inheriting
import ShaderBundle.Proofs.Registry.Keeping

/-!
# Snapshots

A loader gives out fresh snapshots. What a request reads follows the snapshot that the program in
use was built from, and a program that is built for it is built from what was read.

## Three things in step

A ready name has a snapshot, with a text and a version, and a program. The snapshot should be the
one that the program was built from, and its version should tell how often the text has changed
under the handle. Both are about the past of the table, so the service records what is needed of it:
what each program was built from, and which snapshots took the place of which. `Service.Accurate`
relates the table to these records.

## Requests under way

Between the two halves of a request the table may change. A request for a new program has read its
text against the snapshot of the entry at its beginning, and its outcome is to be recorded in the
entry at its end. That these are snapshots one after the other has to be known at the end, so it is
kept along for requests in flight that the entry, as long as it is live, has the snapshot that the
request was begun with. No other request may renew it meanwhile, since the entry is marked.

This module begins and builds; recording an outcome is the step that changes versions, and has a
module of its own.

## Main definitions

* `Loader.Honest`: a loader gives out fresh snapshots of the names that it is asked for.
* `Source.Follows`: one snapshot is another one or its next version.
* `Errand.Accurate`: a request in flight is in step with what it was begun for.
* `Service.changes` counts the programs under a handle that were built from another text than the
  one before.
* `Service.Accurate`: snapshots, programs and versions are in step.

## Main results

* `Loader.ofTable_honest`, `Loader.ofRoots_honest`: texts in memory and on disk are given out so.
* `Registry.prepare_ok`: what is read and taken apart.
* `Service.Accurate.enter`, `Service.Accurate.acquire`, `Service.Accurate.reload`,
  `Service.Accurate.builtFor`: they are in step when a request begins and when it is built for.

## Implementation notes

Versions stop at the greatest number that fits their word.
-/

namespace ShaderBundle

/-! ### Snapshots

A snapshot that follows another one is that one itself if the text is the same: the version stays,
and so does what was known of the file. Otherwise it is the next version. -/

/-- A loader gives out first versions of the names that it is asked for. -/
def Loader.Honest (loader : Loader Id) : Prop :=
  ∀ name source, loader.load name = .ok source → source.name = name ∧ source.version = 1

theorem Loader.ofTable_honest (table : List (Text × Text)) : (Loader.ofTable table).Honest := by
  intro name source h
  simp only [ofTable, pure] at h
  split at h
  · rw [← Except.ok.inj h]
    exact ⟨rfl, rfl⟩
  · simp at h

theorem Loader.ofRoots_honest (disk : Disk Id) (roots : List Text) :
    (Loader.ofRoots disk roots).Honest := by
  intro name source h
  simp only [ofRoots, bind, pure, Id] at h
  split at h
  · simp at h
  · split at h
    · simp at h
    · split at h
      · rw [← Except.ok.inj h]
        exact ⟨rfl, rfl⟩
      · simp at h

/-- The snapshot is the one before, or the next version of it with another text. Without one before,
it is a first version. -/
def Source.Follows (source : Source) : Option Source → Prop
  | none => source.version = 1
  | some previous => source = previous ∨ (source.text ≠ previous.text ∧
      source.version = min (previous.version + 1) Source.lastVersion)

namespace Registry

variable {σ : Type} {around : Surroundings σ} {name : Text} {previous : Option Source}

theorem snapshot_follows {loader : Loader Id} (hloader : loader.Honest)
    (hprevious : ∀ source, previous = some source → source.name = name) {source : Source}
    (h : snapshot loader name previous = .ok source) :
    source.name = name ∧ source.Follows previous := by
  cases previous with
  -- Nothing was there before, and the text is read under the name.
  | none =>
    rcases hload : loader.load name with error | fresh
    · simp [snapshot, hload] at h
    · obtain rfl : fresh = source := by simpa [snapshot, hload] using h
      exact hloader name fresh hload
  | some previous =>
    have hname := hprevious previous rfl
    rcases hload : loader.load previous.name with error | fresh
    · have hrefresh : loader.refresh previous = .error error := by
        rw [Loader.refresh, hload]
        rfl
      simp [snapshot, hrefresh] at h
    · have hrefresh : loader.refresh previous = .ok (Loader.change previous fresh) := by
        rw [Loader.refresh, hload]
        rfl
      -- The text is compared with the one that the program in use was built from.
      by_cases hsame : fresh.sameContent previous
      · obtain rfl : previous = source := by
          simpa [snapshot, hrefresh, Loader.change, hsame] using h
        exact ⟨hname, .inl rfl⟩
      · obtain rfl : fresh.succeeding previous = source := by
          simpa [snapshot, hrefresh, Loader.change, hsame] using h
        refine ⟨(hloader _ _ hload).1.trans hname, .inr ⟨fun htext => hsame ?_, rfl⟩⟩
        exact decide_eq_true htext

theorem snapshot_error {loader : Loader Id} {failure : Failure}
    (h : snapshot loader name previous = .error failure) : failure.source = previous := by
  cases previous with
  | none =>
    simp only [snapshot] at h
    split at h
    · simp at h
    · rw [← Except.error.inj h]
  | some previous =>
    simp only [snapshot] at h
    split at h
    · simp at h
    · simp at h
    · rw [← Except.error.inj h]

theorem prepare_ok (hloader : around.loader.Honest)
    (hprevious : ∀ source, previous = some source → source.name = name) {prepared : Prepared}
    (h : prepare around name previous = .ok prepared) :
    prepared.source.name = name ∧ prepared.source.Follows previous ∧
      Bundle.split around.options.split prepared.source.name prepared.source.text =
        .ok prepared.bundle := by
  rw [prepare] at h
  split at h
  · simp at h
  · next source hsnapshot =>
    obtain ⟨hname, hfollows⟩ := snapshot_follows hloader hprevious hsnapshot
    split at h
    · next bundle hsplit =>
      rw [← Except.ok.inj h]
      exact ⟨hname, hfollows, hsplit⟩
    · simp at h

theorem prepare_error (hloader : around.loader.Honest)
    (hprevious : ∀ source, previous = some source → source.name = name) {failure : Failure}
    (h : prepare around name previous = .error failure) {source : Source}
    (hsource : failure.source = some source) : source.name = name := by
  rw [prepare] at h
  split at h
  · next error hsnapshot =>
    obtain rfl := Except.error.inj h
    exact hprevious source ((snapshot_error hsnapshot).symm.trans hsource)
  · next fresh hsnapshot =>
    split at h
    · simp at h
    · obtain rfl := Except.error.inj h
      obtain rfl := Option.some.inj hsource
      exact (snapshot_follows hloader hprevious hsnapshot).1

end Registry

/-! ### Errands

What is known of a request depends on how far it has come: before it is built for, of the text that
waits, and then of the program or the failure. -/

/-- What a request is built from is in step with what it was begun for. -/
structure Errand.Accurate (options : RegistryOptions) (table : Slots)
    (built : List (ProgramRef × Registry.Prepared)) (errand : Errand) : Prop where
  /-- The snapshot is one of the name. -/
  name : ∀ source, errand.previous = some source → source.name = errand.request.name
  /-- A request for a name that is unloaded follows no snapshot. -/
  acquire : ∀ name, errand.request = .acquire name → errand.previous = none
  /-- A request for a new program follows the snapshot that the table keeps for the handle. -/
  reload : ∀ name handle, errand.request = .reload name handle → ∀ entry,
    table.slot? name = some (.ready entry) → entry.handle = handle →
      errand.previous = some entry.source
  /-- What is built is the text that was read. -/
  waiting : ∀ prepared, errand.progress = .waiting prepared →
    prepared.source.name = errand.request.name ∧ prepared.source.Follows errand.previous ∧
      Bundle.split options.split prepared.source.name prepared.source.text = .ok prepared.bundle
  /-- What was built is the text that was read. -/
  finished : ∀ source ref, errand.progress = .finished (.ok (source, ref)) →
    source.name = errand.request.name ∧ source.Follows errand.previous ∧
      ∃ bundle, (ref, ⟨source, bundle⟩) ∈ built
  /-- A failure keeps a snapshot of the name, if any. -/
  failed : ∀ failure source, errand.progress = .finished (.error failure) →
    failure.source = some source → source.name = errand.request.name

theorem Errand.Accurate.mono {options : RegistryOptions} {table later : Slots}
    {built more : List (ProgramRef × Registry.Prepared)} {errand : Errand}
    (h : errand.Accurate options table built)
    (hreload : ∀ name handle, errand.request = .reload name handle → ∀ entry,
      later.slot? name = some (.ready entry) → entry.handle = handle →
        ∃ old, table.slot? name = some (.ready old) ∧ old.handle = handle ∧
          old.source = entry.source)
    (hbuilt : built ⊆ more) : errand.Accurate options later more where
  name := h.name
  acquire := h.acquire
  reload name handle hrequest entry hslot hhandle := by
    obtain ⟨old, hold, hhandle', hsource⟩ := hreload name handle hrequest entry hslot hhandle
    rw [← hsource]
    exact h.reload name handle hrequest old hold hhandle'
  waiting := h.waiting
  finished source ref hfinished := by
    obtain ⟨hname, hfollows, bundle, hmem⟩ := h.finished source ref hfinished
    exact ⟨hname, hfollows, bundle, hbuilt hmem⟩
  failed := h.failed

theorem Errand.Accurate.of_ready {options : RegistryOptions} {table later : Slots}
    {built more : List (ProgramRef × Registry.Prepared)} {errand : Errand}
    (h : errand.Accurate options table built)
    (hready : ∀ name entry, later.slot? name = some (.ready entry) →
      ∃ old, table.slot? name = some (.ready old) ∧ old.handle = entry.handle ∧
        old.source = entry.source ∧ old.program = entry.program)
    (hbuilt : built ⊆ more) : errand.Accurate options later more :=
  h.mono (fun name handle _ entry hslot hhandle => by
    obtain ⟨old, hold, hhandle', hsource, -⟩ := hready name entry hslot
    exact ⟨old, hold, hhandle'.trans hhandle, hsource⟩) hbuilt

namespace Service

variable {σ : Type} {backend : Backend σ} {options : RegistryOptions} {loaders : Loader Id → Prop}
  {service later : Service σ} {name : Text} {handle : Handle} {ref : ProgramRef}

/-- The renewals of a handle with another text. -/
def changes (service : Service σ) (handle : Handle) : Nat :=
  service.renewals.countP fun renewal =>
    renewal.handle = handle ∧ renewal.before.text ≠ renewal.after.text

/-- Snapshots, programs and versions are in step. -/
structure Accurate (options : RegistryOptions) (service : Service σ) : Prop where
  /-- What programs were built from are texts that were taken apart. -/
  built : ∀ pair ∈ service.built, Bundle.split options.split pair.2.source.name pair.2.source.text =
    .ok pair.2.bundle
  /-- The snapshot of an entry is what its program was built from. -/
  entries : ∀ name entry, service.traffic.table.slot? name = some (.ready entry) →
    entry.source.name = name ∧ ∃ bundle, (entry.program, ⟨entry.source, bundle⟩) ∈ service.built
  /-- The version of the snapshot tells how often the text has changed. -/
  versions : ∀ name entry, service.traffic.table.slot? name = some (.ready entry) →
    entry.source.version = min (1 + service.changes entry.handle) Source.lastVersion
  /-- A failure keeps a snapshot of the name, if any. -/
  failures : ∀ name error source,
    service.traffic.table.slot? name = some (.failed error (some source)) → source.name = name
  /-- Requests are in step. -/
  errands : ∀ errand ∈ service.errands,
    errand.Accurate options service.traffic.table service.built
  /-- What was renewed was made before. -/
  renewals : ∀ renewal ∈ service.renewals, renewal.handle ∈ service.traffic.minted

/-- Entries are inherited, and nothing is renewed. -/
theorem Accurate.of_ready (h : service.Accurate options)
    (hready : ∀ name entry, later.traffic.table.slot? name = some (.ready entry) →
      ∃ old, service.traffic.table.slot? name = some (.ready old) ∧ old.handle = entry.handle ∧
        old.source = entry.source ∧ old.program = entry.program)
    (hfailures : ∀ name error source,
      later.traffic.table.slot? name = some (.failed error (some source)) → source.name = name)
    (hminted : service.traffic.minted ⊆ later.traffic.minted)
    (hbuilt : ∃ more, later.built = service.built ++ more ∧ ∀ pair ∈ more,
      Bundle.split options.split pair.2.source.name pair.2.source.text = .ok pair.2.bundle)
    (hrenewals : later.renewals = service.renewals)
    (herrands : ∀ errand ∈ later.errands,
      errand.Accurate options later.traffic.table later.built) : later.Accurate options := by
  obtain ⟨more, hbuilt, hmore⟩ := hbuilt
  refine ⟨fun pair hpair => ?_, fun name entry hslot => ?_, fun name entry hslot => ?_, hfailures,
    herrands, fun renewal hrenewal => hminted (h.renewals renewal (hrenewals ▸ hrenewal))⟩
  · rw [hbuilt] at hpair
    exact (List.mem_append.mp hpair).elim (h.built pair) (hmore pair)
  -- Programs on record stay there, so what an entry was built from is still on it.
  · obtain ⟨old, hold, -, hsource, hprogram⟩ := hready name entry hslot
    obtain ⟨hname, bundle, hmem⟩ := h.entries name old hold
    rw [← hsource, ← hprogram, hbuilt]
    exact ⟨hname, bundle, List.mem_append_left _ hmem⟩
  · obtain ⟨old, hold, hhandle, hsource, -⟩ := hready name entry hslot
    rw [← hsource, ← hhandle, changes, hrenewals]
    exact h.versions name old hold

/-- A caller goes through a section, and may begin a request with it. -/
theorem Accurate.enter (h : service.Accurate options) {step : Section} (hplain : step.IsPlain)
    (more : List Errand) (hmore : ∀ errand ∈ more,
      errand.Accurate options (service.traffic.after step).table service.built) :
    ({ service with
      traffic := service.traffic.after step
      errands := service.errands ++ more } : Service σ).Accurate options := by
  have hinherits := hplain.inherits service.traffic
  refine h.of_ready hinherits.ready
    (fun name error source hslot => h.failures name error source (hinherits.failed _ _ _ hslot))
    (service.traffic.minted_subset_after step)
    ⟨[], (List.append_nil _).symm, fun _ hmem => nomatch hmem⟩ rfl fun errand herrand => ?_
  rcases List.mem_append.mp herrand with hold | hnew
  · exact (h.errands errand hold).of_ready hinherits.ready (List.Subset.refl _)
  · exact hmore errand hnew

/-- The graphics thread does something. -/
theorem Accurate.of_thread (h : service.Accurate options) (thread : Thread σ) :
    ({ service with thread } : Service σ).Accurate options :=
  ⟨h.built, h.entries, h.versions, h.failures, h.errands, h.renewals⟩

/-- What a text that was read comes to is in step with the request. -/
theorem accurate_of_prepare (around : Surroundings σ) (hloader : around.loader.Honest)
    {table : Slots} {built : List (ProgramRef × Registry.Prepared)} {request : Request}
    {previous : Option Source}
    (hname : ∀ source, previous = some source → source.name = request.name)
    (hacquire : ∀ name, request = .acquire name → previous = none)
    (hreload : ∀ name handle, request = .reload name handle → ∀ entry,
      table.slot? name = some (.ready entry) → entry.handle = handle →
        previous = some entry.source) :
    Errand.Accurate around.options table built
      ⟨request, previous, .of (Registry.prepare around request.name previous)⟩ where
  name := hname
  acquire := hacquire
  reload := hreload
  -- What waits to be built is what was read and taken apart.
  waiting prepared hprogress := by
    rcases hprepare : Registry.prepare around request.name previous with failure | result
    · simp [hprepare, Progress.of] at hprogress
    · obtain rfl : result = prepared := by simpa [hprepare, Progress.of] using hprogress
      exact Registry.prepare_ok hloader hname hprepare
  -- Nothing was built yet.
  finished source ref hprogress := by
    rcases hprepare : Registry.prepare around request.name previous with failure | result <;>
      simp [hprepare, Progress.of] at hprogress
  failed failure source hprogress hsource := by
    rcases hprepare : Registry.prepare around request.name previous with error | result
    · obtain rfl : error = failure := by simpa [hprepare, Progress.of] using hprogress
      exact Registry.prepare_error hloader hname hprepare hsource
    · simp [hprepare, Progress.of] at hprogress

theorem Accurate.acquire (h : service.Accurate options) {loader : Loader Id}
    (hloader : loader.Honest) (name : Text) :
    (service.begun (.claim name) ⟨.acquire name, none,
      .of (Registry.prepare ⟨backend, loader, options⟩ name none)⟩).Accurate options := by
  refine h.enter (show (Section.claim name).IsPlain from trivial) _ fun errand herrand => ?_
  rw [List.mem_singleton.mp herrand]
  exact accurate_of_prepare ⟨backend, loader, options⟩ hloader (fun _ hnone => nomatch hnone)
    (fun _ _ => rfl) fun _ _ hrequest => nomatch hrequest

theorem Accurate.reload (h : service.Accurate options) {loader : Loader Id}
    (hloader : loader.Honest) {source : Source}
    (hmark : (service.traffic.table.mark name).1 = .marked handle source) :
    (service.begun (.mark name) ⟨.reload name handle, some source,
      .of (Registry.prepare ⟨backend, loader, options⟩ name (some source))⟩).Accurate options := by
  rcases service.traffic.table.mark_cases name with ⟨hnone, -⟩ | ⟨entry, hslot, -, hmark'⟩
  · exact absurd hmark (hnone handle source)
  · rw [hmark'] at hmark
    obtain ⟨rfl, rfl⟩ : entry.handle = handle ∧ entry.source = source := by simpa using hmark
    refine h.enter (show (Section.mark name).IsPlain from trivial) _ fun errand herrand => ?_
    rw [List.mem_singleton.mp herrand]
    refine accurate_of_prepare ⟨backend, loader, options⟩ hloader ?_
      (fun _ hrequest => nomatch hrequest) ?_
    · intro source hsource
      obtain rfl := Option.some.inj hsource
      exact (h.entries name entry hslot).1
    · intro other handle hrequest found hfound hhandle
      obtain ⟨rfl, rfl⟩ : name = other ∧ entry.handle = handle := by simpa using hrequest
      rw [Traffic.table_mark, hmark', Slots.slot?_set, if_pos rfl] at hfound
      obtain rfl : { entry with reloading := true } = found := by simpa using hfound
      rfl

theorem Accurate.builtFor (h : service.Accurate options) (backend : Backend σ) (validate : Bool)
    {before after : List Errand} {errand : Errand} {prepared : Registry.Prepared}
    (herrands : service.errands = before ++ errand :: after)
    (hprogress : errand.progress = .waiting prepared) :
    (service.builtFor backend validate before after errand prepared).Accurate options := by
  have herrand := h.errands errand (herrands ▸ List.mem_append_right _ List.mem_cons_self)
  obtain ⟨hname, hfollows, hsplit⟩ := herrand.waiting prepared hprogress
  have hinherits := service.traffic.table.inherits_refl
  refine h.of_ready hinherits.ready h.failures (List.Subset.refl _) ⟨_, rfl, fun pair hpair => ?_⟩
    rfl fun other hother => ?_
  -- What is put on record was taken apart.
  · obtain ⟨ref, -, rfl⟩ := List.mem_map.mp hpair
    exact hsplit
  · have hsub : service.built ⊆
        (service.builtFor backend validate before after errand prepared).built :=
      List.subset_append_left _ _
    have hold : ∀ other ∈ service.errands, other.Accurate options service.traffic.table
        (service.builtFor backend validate before after errand prepared).built := fun other hmem =>
      (h.errands other hmem).of_ready hinherits.ready hsub
    rw [herrands] at hold
    rcases List.mem_append.mp hother with hbefore | hrest
    · exact hold other (List.mem_append_left _ hbefore)
    · rcases List.mem_cons.mp hrest with rfl | hafter
      -- The request itself has an outcome now, with the snapshot that it was built from either way.
      · refine ⟨herrand.name, herrand.acquire, herrand.reload, (fun _ hwaiting => nomatch hwaiting),
          fun source ref hfinished => ?_, fun failure source hfinished hsource => ?_⟩
        · rcases hbuild : (service.thread.build backend prepared.bundle validate).1
            with error | made
          · simp [hbuild, Scene.outcomeOf] at hfinished
          · obtain ⟨rfl, rfl⟩ : prepared.source = source ∧ made = ref := by
              simpa [hbuild, Scene.outcomeOf] using hfinished
            refine ⟨hname, hfollows, prepared.bundle, List.mem_append_right _ ?_⟩
            rw [hbuild]
            exact List.mem_singleton_self _
        · rcases hbuild : (service.thread.build backend prepared.bundle validate).1
            with error | made
          · obtain rfl : Failure.mk (.build error) (some prepared.source) = failure := by
              simpa [hbuild, Scene.outcomeOf] using hfinished
            obtain rfl := Option.some.inj hsource
            exact hname
          · simp [hbuild, Scene.outcomeOf] at hfinished
      · exact hold other (List.mem_append_right _ (List.mem_cons_of_mem _ hafter))

end Service

end ShaderBundle
