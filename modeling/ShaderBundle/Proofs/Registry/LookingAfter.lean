import ShaderBundle.Proofs.Registry.AtRest

/-!
# Looking after names

Names whose texts may have changed are looked after one by one. Nothing that is done about one of
them is seen at another.

## What is said of any backend

A ready name is reloaded if its text has changed. Whether that succeeds is a matter of the backend,
so all that is said here is what holds either way: the name stays ready, under the same handle and
with as many references as before. A failed name with another text is forgotten, and may be loaded
anew by whoever asks for it next; with the same text, or with one that cannot be read, the failure
is remembered.

What comes of it over a backend whose answers are known is the matter of a later module, which goes
through the same names in the same way.

## The order of names

The names that are looked after are fixed when the pass begins, in any order. `LookedAfter` is
stated with that list, so that a pass over several names is a pass over the first and one over the
rest (`LookedAfter.trans`), and no invariant has to be found for a pass that has come halfway.

## Main definitions

* `Slots.Offers`: a name may have another text than when it became ready or failed.
* `Registry.lookAfter`: what is done about one name.
* `Registry.HasOtherText`: the text of a failed name is another one.
* `Registry.LookedAfter`: what becomes of the state of a name.

## Main results

* `Slots.AtRest.mem_candidates_iff`: names that are ready or have failed are looked after.
* `Registry.lookedAfter_reloadChangedOf`: ready names stay ready, and failed ones are forgotten if
  their text is another one.
-/

namespace ShaderBundle

/-! ### Candidates

A candidate is a name with the snapshot that it became ready or failed with. Names that are being
built are none, and neither are entries with a mark; at rest there are no such names. -/

namespace Slots

variable {table : Slots} {name : Text}

theorem Keyed.mem_slots_iff (h : table.Keyed) {slot : Slot} :
    (name, slot) ∈ table.slots ↔ table.slot? name = some slot := by
  refine ⟨fun hmem => ?_, mem_of_slot?⟩
  rcases hfound : table.slot? name with _ | found
  · simpa using List.lookup_eq_none_iff.mp hfound _ hmem
  · exact congrArg some
      (congrArg Prod.snd (List.inj_on_of_nodup_map h (mem_of_slot? hfound) hmem rfl))

/-- The name is ready or has failed, with this snapshot. -/
def Offers (table : Slots) (name : Text) : Candidate → Prop
  | .ready source => ∃ entry, table.slot? name = some (.ready entry) ∧ entry.source = source
  | .failed source => ∃ error, table.slot? name = some (.failed error source)

theorem Offers.congr {later : Slots} {candidate : Candidate} (h : table.Offers name candidate)
    (hslot : later.slot? name = table.slot? name) : later.Offers name candidate := by
  cases candidate with
  | ready source =>
    obtain ⟨entry, hentry, hsource⟩ := h
    exact ⟨entry, hslot.trans hentry, hsource⟩
  | failed source =>
    obtain ⟨error, hfailed⟩ := h
    exact ⟨error, hslot.trans hfailed⟩

/-- **Names that are ready or have failed are looked after.** -/
theorem AtRest.mem_candidates_iff (h : table.AtRest) {candidate : Candidate} :
    (name, candidate) ∈ table.candidates ↔ table.Offers name candidate := by
  rw [candidates, List.mem_filterMap]
  constructor
  · rintro ⟨⟨other, _ | entry | ⟨error, source⟩⟩, hmem, hcandidate⟩
    · exact nomatch hcandidate
    · have hslot := h.keyed.mem_slots_iff.mp hmem
      obtain ⟨rfl, rfl⟩ : other = name ∧ .ready entry.source = candidate := by
        simpa [h.unmarked other entry hslot] using hcandidate
      exact ⟨entry, hslot, rfl⟩
    · obtain ⟨rfl, rfl⟩ : other = name ∧ .failed source = candidate := by simpa using hcandidate
      exact ⟨error, h.keyed.mem_slots_iff.mp hmem⟩
  · intro hoffers
    rcases candidate with source | source
    · obtain ⟨entry, hslot, rfl⟩ := hoffers
      exact ⟨_, mem_of_slot? hslot, by simp [h.unmarked name entry hslot]⟩
    · obtain ⟨error, hslot⟩ := hoffers
      exact ⟨_, mem_of_slot? hslot, rfl⟩

/-- No name is looked after twice. -/
theorem Keyed.nodup_candidates (h : table.Keyed) : (table.candidates.map Prod.fst).Nodup := by
  refine List.Nodup.sublist ?_ h
  rw [candidates, List.map_filterMap]
  induction table.slots with
  | nil => exact List.Sublist.refl _
  | cons entry rest ih =>
    obtain ⟨name, _ | entry | ⟨error, source⟩⟩ := entry
    · simpa using ih.cons name
    · cases hreloading : entry.reloading with
      | false => simpa [hreloading] using ih.cons_cons name
      | true => simpa [hreloading] using ih.cons name
    · simpa using ih.cons_cons name

end Slots

namespace Registry

variable {σ : Type} {backend : Backend σ} {options : RegistryOptions} {loaders : Loader Id → Prop}
  {registry later : Registry σ} {name other : Text}

/-! ### One name

The text is read once, by name. What is done then depends on the candidate and the text alone, and
not on what the table says by now. -/

/-- The text behind a name that has failed can be read, and it is another one than the one of the
failure, if one was read then. -/
def HasOtherText (loader : Loader Id) (name : Text) : Option Source → Prop
  | some source => ∃ fresh, loader.load source.name = .ok fresh ∧ fresh.text ≠ source.text
  | none => ∃ fresh, loader.load name = .ok fresh

theorem refresh_eq (loader : Loader Id) (source : Source) :
    loader.refresh source = match loader.load source.name with
      | .error error => .error error
      | .ok fresh => .ok (Loader.change source fresh) := rfl

/-- **A failed name is forgotten if its text is another one.** -/
theorem changeOf_failed_iff {loader : Loader Id} {source : Option Source} :
    changeOf loader name (.failed source) = .forget ↔ HasOtherText loader name source := by
  rcases source with _ | source
  -- No text was read when it failed, so any text that can be read is another one.
  · rcases hload : loader.load name with error | fresh <;> simp [changeOf, HasOtherText, hload]
  · rw [changeOf, refresh_eq, HasOtherText]
    rcases loader.load source.name with error | fresh
    · simp
    · simp only [Loader.change, Source.sameContent, decide_eq_true_eq]
      constructor
      · intro h
        split at h
        · next hfresh =>
          split at hfresh
          · simp at hfresh
          · next htext => exact ⟨fresh, rfl, htext⟩
        · simp at h
      · rintro ⟨other, hother, htext⟩
        obtain rfl := Except.ok.inj hother
        rw [if_neg htext]

theorem changeOf_failed (loader : Loader Id) (name : Text) (source : Option Source) :
    changeOf loader name (.failed source) = .forget ∨
      changeOf loader name (.failed source) = .nothing := by
  rcases source with _ | source
  · rw [changeOf]
    split
    · exact .inl rfl
    · exact .inr rfl
  · rw [changeOf]
    split
    · exact .inl rfl
    · exact .inr rfl

/-- What is done about one name, with the report on it. -/
def lookAfter (around : Surroundings σ) (caller : Caller) (name : Text)
    (candidate : Slots.Candidate) (registry : Registry σ) :
    List (Text × RegistryError) × Registry σ :=
  match changeOf around.loader name candidate with
  | .nothing => ([], registry)
  | .unreadable error => ([(name, .load error)], registry)
  | .forget => ([], { registry with table := (registry.table.clearFailed name).2 })
  | .reload =>
    (worthReporting name (reload around caller name registry).1,
      (reload around caller name registry).2)

theorem reloadChangedOf_cons (around : Surroundings σ) (caller : Caller) (name : Text)
    (candidate : Slots.Candidate) (rest : List (Text × Slots.Candidate)) (registry : Registry σ) :
    reloadChangedOf around caller ((name, candidate) :: rest) registry =
      ((lookAfter around caller name candidate registry).1 ++
          (reloadChangedOf around caller rest
            (lookAfter around caller name candidate registry).2).1,
        (reloadChangedOf around caller rest
          (lookAfter around caller name candidate registry).2).2) :=
  rfl

theorem serves_lookAfter (around : Surroundings σ) (hloader : loaders around.loader) (name : Text)
    (candidate : Slots.Candidate) (registry : Registry σ) :
    Serves around.backend around.options loaders registry
      (lookAfter around .outside name candidate registry).2 := by
  rw [lookAfter]
  split
  · exact serves_refl registry
  · exact serves_refl registry
  · exact serves_clearFailed name registry
  · exact serves_reload around hloader name registry

/-- A request for a new program is seen at its name and nowhere else. -/
theorem slot?_reload_of_ne (h : registry.table.AtRest) (around : Surroundings σ)
    (hother : other ≠ name) :
    (reload around .outside name registry).2.table.slot? other = registry.table.slot? other := by
  rcases reload_cases h around name with ⟨-, hreload⟩ | ⟨entry, -, ⟨failure, -, hreload⟩ |
    ⟨prepared, -, hreload⟩⟩
  · rw [hreload]
  · rw [hreload, slot?_sweep]
  · rw [hreload]
    rcases (builtNext around prepared registry).1 with error | program
    · exact slot?_sweep _ other
    · refine (slot?_sweep _ other).trans ?_
      exact (Slots.slot?_set _ name _ other).trans (if_neg hother)

/-- A ready name stays ready, with its handle and its references. -/
theorem slot?_reload (h : registry.table.AtRest) (around : Surroundings σ) (name : Text) :
    (∀ entry, registry.table.slot? name ≠ some (.ready entry)) ∧
        (reload around .outside name registry).2 = registry ∨
      ∃ entry entry', registry.table.slot? name = some (.ready entry) ∧
        (reload around .outside name registry).2.table.slot? name = some (.ready entry') ∧
          entry'.handle = entry.handle ∧ entry'.refs = entry.refs := by
  rcases reload_cases h around name with ⟨hnone, hreload⟩ | ⟨entry, hslot, ⟨failure, -, hreload⟩ |
    ⟨prepared, -, hreload⟩⟩
  · exact .inl ⟨hnone, by rw [hreload]⟩
  · refine .inr ⟨entry, entry, hslot, ?_, rfl, rfl⟩
    rw [hreload, slot?_sweep, hslot]
  · rw [hreload]
    -- The entry is as before, or it has another program and another snapshot.
    rcases (builtNext around prepared registry).1 with error | program
    · exact .inr ⟨entry, entry, hslot, (slot?_sweep _ name).trans hslot, rfl, rfl⟩
    · refine .inr ⟨entry, { entry with source := prepared.source, program }, hslot, ?_, rfl, rfl⟩
      refine (slot?_sweep _ name).trans ?_
      exact (Slots.slot?_set _ name _ name).trans (if_pos rfl)

/-! ### All names -/

/-- What becomes of the state of a name when names are looked after. -/
inductive LookedAfter (loader : Loader Id) (order : List (Text × Slots.Candidate)) (name : Text) :
    Option Slot → Option Slot → Prop where
  | unloaded : LookedAfter loader order name none none
  | ready {entry entry' : Entry} (hhandle : entry'.handle = entry.handle)
    (hrefs : entry'.refs = entry.refs) :
    LookedAfter loader order name (some (.ready entry)) (some (.ready entry'))
  | forgotten {error : RegistryError} {source : Option Source} {candidate : Slots.Candidate}
    (hmem : (name, candidate) ∈ order) (hchange : changeOf loader name candidate = .forget) :
    LookedAfter loader order name (some (.failed error source)) none
  | remembered {error : RegistryError} {source : Option Source}
    (hchange : ∀ candidate, (name, candidate) ∈ order → changeOf loader name candidate ≠ .forget) :
    LookedAfter loader order name (some (.failed error source)) (some (.failed error source))

/-- What is done about a name is seen at it and nowhere else. -/
theorem slot?_lookAfter_of_ne (h : registry.table.AtRest) (around : Surroundings σ)
    (candidate : Slots.Candidate) (hother : other ≠ name) :
    (lookAfter around .outside name candidate registry).2.table.slot? other =
      registry.table.slot? other := by
  rw [lookAfter]
  split
  · rfl
  · rfl
  · rcases registry.table.clearFailed_cases name with hclear | ⟨error, source, -, hclear⟩
    · exact congrArg (Slots.slot? · other) hclear
    · rw [hclear]
      exact (Slots.slot?_erase _ name other).trans (if_neg hother)
  · exact slot?_reload_of_ne h around hother

/-- A name stays as it is if its text is not another one. -/
theorem lookedAfter_refl (h : registry.table.AtRest) {loader : Loader Id}
    {order : List (Text × Slots.Candidate)}
    (hchange : ∀ candidate, (name, candidate) ∈ order → changeOf loader name candidate ≠ .forget) :
    LookedAfter loader order name (registry.table.slot? name) (registry.table.slot? name) := by
  rcases hslot : registry.table.slot? name with _ | (_ | entry | ⟨error, source⟩)
  · exact .unloaded
  · exact absurd hslot (h.unclaimed name)
  · exact .ready rfl rfl
  · exact .remembered hchange

theorem LookedAfter.trans {loader : Loader Id} {order order' : List (Text × Slots.Candidate)}
    {slot slot' slot'' : Option Slot} (h : LookedAfter loader order name slot slot')
    (h' : LookedAfter loader order' name slot' slot'') :
    LookedAfter loader (order ++ order') name slot slot'' := by
  cases h with
  | unloaded =>
    cases h' with
    | unloaded => exact .unloaded
  | ready hhandle hrefs =>
    cases h' with
    | ready hhandle' hrefs' => exact .ready (hhandle'.trans hhandle) (hrefs'.trans hrefs)
  -- What is forgotten by the first pass is unloaded when the second one comes.
  | forgotten hmem hchange =>
    cases h' with
    | unloaded => exact .forgotten (List.mem_append_left _ hmem) hchange
  | remembered hchange =>
    cases h' with
    | forgotten hmem hchange' => exact .forgotten (List.mem_append_right _ hmem) hchange'
    | remembered hchange' =>
      exact .remembered fun candidate hmem =>
        (List.mem_append.mp hmem).elim (hchange candidate) (hchange' candidate)

theorem lookedAfter_lookAfter (h : registry.table.AtRest) (around : Surroundings σ) (name : Text)
    (candidate : Slots.Candidate) (other : Text) :
    LookedAfter around.loader [(name, candidate)] other (registry.table.slot? other)
      ((lookAfter around .outside name candidate registry).2.table.slot? other) := by
  by_cases hother : other = name
  · subst hother
    -- Whatever else is decided, the name stays as it is.
    have hkept : changeOf around.loader other candidate ≠ .forget →
        LookedAfter around.loader [(other, candidate)] other (registry.table.slot? other)
          (registry.table.slot? other) := by
      refine fun hchange => lookedAfter_refl h fun found hfound => ?_
      obtain rfl : found = candidate := by simpa using hfound
      exact hchange
    rw [lookAfter]
    split
    next hchange => exact hkept (by simp [hchange])
    next error hchange => exact hkept (by simp [hchange])
    next hchange =>
      rcases hslot : registry.table.slot? other with _ | (_ | entry | ⟨error, source⟩)
      · simpa [Slots.clearFailed, hslot] using .unloaded
      · exact absurd hslot (h.unclaimed other)
      · simpa [Slots.clearFailed, hslot] using .ready rfl rfl
      -- Only a failed name is forgotten.
      · have hnone : (registry.table.clearFailed other).2.slot? other = none := by
          simp [Slots.clearFailed, hslot, Slots.slot?_erase]
        rw [hnone]
        exact .forgotten (List.mem_singleton_self _) hchange
    next hchange =>
      -- A new program is asked for, and the name stays ready.
      rcases slot?_reload h around other with
        ⟨-, hreload⟩ | ⟨entry, entry', hslot, hslot', hhandle, hrefs⟩
      · rw [hreload]
        exact hkept (by simp [hchange])
      · rw [hslot, hslot']
        exact .ready hhandle hrefs
  · rw [slot?_lookAfter_of_ne h around candidate hother]
    refine lookedAfter_refl h fun found hfound => absurd ?_ hother
    exact congrArg Prod.fst (List.mem_singleton.mp hfound)

/-- **Ready names stay ready, and failed ones are forgotten if their text is another one.** -/
theorem lookedAfter_reloadChangedOf {around : Surroundings σ}
    (h : Reachable around.backend around.options loaders registry) (hloader : loaders around.loader)
    (order : List (Text × Slots.Candidate)) (name : Text) :
    LookedAfter around.loader order name (registry.table.slot? name)
      ((reloadChangedOf around .outside order registry).2.table.slot? name) := by
  induction order generalizing registry with
  | nil => exact lookedAfter_refl h.atRest fun _ hmem => nomatch hmem
  | cons pair rest ih =>
    obtain ⟨first, candidate⟩ := pair
    rw [reloadChangedOf_cons]
    exact (lookedAfter_lookAfter h.atRest around first candidate name).trans
      (ih (h.serves (serves_lookAfter around hloader first candidate registry)))

end Registry

end ShaderBundle
