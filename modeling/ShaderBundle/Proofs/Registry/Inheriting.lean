import ShaderBundle.Proofs.Registry.Scene

/-!
# What sections leave alone

Most sections change references and marks, or unload a name. What a name was built from, and why it
failed, they leave as it was.

## What it is for

Handles, snapshots, programs and failures are what the table says about the outcomes of requests.
Only the second halves of requests, which record an outcome, may put anything new there. Whatever is
known of the outcomes that were recorded is therefore known of the table, through any number of
other sections in between: of snapshots and programs, that one was built from the other, and of
failures, that they are of a kind that is kept.

Names may be unloaded in the meantime, so the relation goes from the later table to the earlier one:
what is ready or failed now was so before.

## Main definitions

* `Slots.Inherits`: nothing but references and marks has changed, but for names that were unloaded.

## Main results

* `Section.IsPlain.inherits`: so it is behind the sections that record no outcome.
* `Traffic.failed_after`: a failure that is kept was kept before, or it is no matter of the graphics
  thread.
-/

namespace ShaderBundle

namespace Slots

variable {table later : Slots} {name : Text} {handle : Handle}

/-- Entries keep their handles, snapshots and programs, failures are kept as they are, and neither
comes in anew. -/
structure Inherits (table later : Slots) : Prop where
  /-- Entries. -/
  ready : ∀ name entry, later.slot? name = some (.ready entry) →
    ∃ old, table.slot? name = some (.ready old) ∧ old.handle = entry.handle ∧
      old.source = entry.source ∧ old.program = entry.program
  /-- Failures. -/
  failed : ∀ name error source, later.slot? name = some (.failed error source) →
    table.slot? name = some (.failed error source)

theorem inherits_refl (table : Slots) : table.Inherits table :=
  ⟨fun _ entry h => ⟨entry, h, rfl, rfl, rfl⟩, fun _ _ _ h => h⟩

/-- The entry of a name is changed, but not in what counts. -/
theorem inherits_set {entry entry' : Entry} (hslot : table.slot? name = some (.ready entry))
    (hhandle : entry.handle = entry'.handle) (hsource : entry.source = entry'.source)
    (hprogram : entry.program = entry'.program) :
    table.Inherits (table.set name (.ready entry')) := by
  refine ⟨fun other found hfound => ?_, fun other error source hfound => ?_⟩
  · rw [slot?_set] at hfound
    split at hfound
    · next hother =>
      obtain rfl : entry' = found := by simpa using hfound
      exact ⟨entry, hother ▸ hslot, hhandle, hsource, hprogram⟩
    · exact ⟨found, hfound, rfl, rfl, rfl⟩
  · rw [slot?_set] at hfound
    split at hfound
    · simp at hfound
    · exact hfound

/-- A name is unloaded, or it is being built. -/
theorem inherits_of_idle {slot : Option Slot} (hslot : slot = none ∨ slot = some .loading)
    (h : ∀ other, later.slot? other = if other = name then slot else table.slot? other) :
    table.Inherits later := by
  refine ⟨fun other found hfound => ?_, fun other error source hfound => ?_⟩
  · rw [h] at hfound
    split at hfound
    · rcases hslot with rfl | rfl <;> simp at hfound
    · exact ⟨found, hfound, rfl, rfl, rfl⟩
  · rw [h] at hfound
    split at hfound
    · rcases hslot with rfl | rfl <;> simp at hfound
    · exact hfound

theorem inherits_claim (table : Slots) (name : Text) : table.Inherits (table.claim name).2 := by
  rcases table.claim_cases name with ⟨-, -, hclaim⟩ | ⟨entry, hslot, hclaim⟩ | ⟨-, hclaim⟩
  · rw [hclaim]
    exact inherits_refl table
  · rw [hclaim]
    exact inherits_set hslot rfl rfl rfl
  · rw [hclaim]
    exact inherits_of_idle (.inr rfl) (slot?_set table name .loading)

theorem inherits_release (table : Slots) (handle : Handle) :
    table.Inherits (table.release handle).2 := by
  rcases table.release_cases handle with ⟨-, hrelease⟩ | ⟨name, entry, -, hslot, -, h⟩
  · rw [hrelease]
    exact inherits_refl table
  · rcases h with ⟨-, hrelease⟩ | ⟨-, hrelease⟩
    · rw [hrelease]
      exact inherits_set hslot rfl rfl rfl
    · rw [hrelease]
      exact inherits_of_idle (.inl rfl) (slot?_erase table name)

theorem inherits_mark (table : Slots) (name : Text) : table.Inherits (table.mark name).2 := by
  rcases table.mark_cases name with ⟨-, hmark⟩ | ⟨entry, hslot, -, hmark⟩
  · rw [hmark]
    exact inherits_refl table
  · rw [hmark]
    exact inherits_set hslot rfl rfl rfl

theorem inherits_clearFailed (table : Slots) (name : Text) :
    table.Inherits (table.clearFailed name).2 := by
  rcases table.clearFailed_cases name with hclear | ⟨error, source, -, hclear⟩
  · rw [hclear]
    exact inherits_refl table
  · rw [hclear]
    exact inherits_of_idle (.inl rfl) (slot?_erase table name)

end Slots

theorem Section.IsPlain.inherits {step : Section} (h : step.IsPlain) (traffic : Traffic) :
    traffic.table.Inherits (traffic.after step).table := by
  cases step with
  | claim name =>
    rw [traffic.table_claim]
    exact traffic.table.inherits_claim name
  | release handle =>
    rw [traffic.table_release]
    exact traffic.table.inherits_release handle
  | mark name =>
    rw [traffic.table_mark]
    exact traffic.table.inherits_mark name
  | clearFailed name => exact traffic.table.inherits_clearFailed name
  | settle | replace | sweep => exact h.elim

/-- **A failure that is kept was kept before, or it is no matter of the graphics thread.** -/
theorem Traffic.failed_after (traffic : Traffic) (step : Section) {name : Text}
    {error : RegistryError} {source : Option Source}
    (h : (traffic.after step).table.slot? name = some (.failed error source)) :
    traffic.table.slot? name = some (.failed error source) ∨ error.isTransient = false := by
  have hplain : step.IsPlain → traffic.table.slot? name = some (.failed error source) :=
    fun hplain => (hplain.inherits traffic).failed name error source h
  cases step with
  | claim other | release handle | mark other | clearFailed other => exact .inl (hplain trivial)
  | sweep isHeld => exact .inl h
  | settle other outcome =>
    rw [traffic.table_settle] at h
    rcases outcome with failure | ⟨built, program⟩
    -- A failure of the graphics thread unloads the name, any other is kept.
    · by_cases htransient : failure.error.isTransient
      · rw [Slots.settle, if_pos htransient, Slots.slot?_erase] at h
        split at h
        · cases h
        · exact .inl h
      · rw [Slots.settle, if_neg htransient, Slots.slot?_set] at h
        split at h
        · obtain ⟨rfl, -⟩ : failure.error = error ∧ failure.source = source := by simpa using h
          exact .inr (eq_false_of_ne_true htransient)
        · exact .inl h
    · rw [Slots.settle, Slots.slot?_set] at h
      split at h
      · cases h
      · exact .inl h
  -- The outcome of a reload is recorded in an entry, or nowhere, and a ready name has not failed.
  | replace other handle outcome =>
    change (traffic.table.replace other handle outcome).2.slot? name = _ at h
    rcases traffic.table.replace_cases other handle outcome with
      ⟨entry, -, -, ⟨built, program, -, hreplace⟩ | ⟨failure, -, hreplace⟩⟩ | ⟨-, hreplace⟩
    · rw [hreplace] at h
      replace h := (Slots.slot?_set traffic.table other _ name).symm.trans h
      split at h
      · cases h
      · exact .inl h
    · rw [hreplace, Slots.slot?_set] at h
      split at h
      · cases h
      · exact .inl h
    · rw [hreplace] at h
      exact .inl h

end ShaderBundle
