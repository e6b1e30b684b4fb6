import Mathlib.Data.List.Nodup
import ShaderBundle.Registry.Slots

/-!
# Looking into a changed table

What a change of the table does to the states of names, and what each section can do at all.

## Sections by cases

A section is a function of the table with guards: whether the name is there, in which state it is,
whose handle its entry has and how many references are left. The lemmas `claim_cases`,
`release_cases` and so on list what can come of each, with the guards that lead there and the whole
new table. Everything that is shown of sections later is shown by these cases. The definitions are
not opened again, so a section that comes to do something else has one lemma to be changed, and then
those that no longer go through.

## Names of handles

Handles have a list of their own, in which a handle gets its name when it is made and loses it with
the last reference. An entry has its handle too, and a live handle is found only if both agree
(`entry?_eq_some_iff`). That they always agree is not shown here; it is part of what is known of
tables in use.

## Main results

* `Slots.slot?_set`, `Slots.slot?_erase`: a change is seen at its name and nowhere else.
* `Slots.claim_cases`, `Slots.release_cases`, `Slots.mark_cases`, `Slots.replace_cases`,
  `Slots.clearFailed_cases`: what the sections do, with their guards.
-/

namespace ShaderBundle.Slots

variable {table : Slots} {name other : Text} {handle : Handle}

/-! ### States of names

A name is set by replacing its pair in the list, or by adding one at the end. What is found under a
name then is asked of lists first. -/

theorem lookup_map_of_mem {slots : List (Text × Slot)} {slot : Slot}
    (h : (slots.lookup name).isSome) :
    (slots.map fun entry => if entry.1 = name then (name, slot) else entry).lookup name =
      some slot := by
  induction slots with
  | nil => simp at h
  | cons entry rest ih =>
    obtain ⟨key, old⟩ := entry
    by_cases hkey : key = name
    · simp [hkey]
    · have hne : (name == key) = false := by simpa using Ne.symm hkey
      rw [List.lookup_cons, hne] at h
      rw [List.map_cons, if_neg hkey, List.lookup_cons, hne]
      exact ih h

theorem lookup_map_of_ne {slots : List (Text × Slot)} {slot : Slot} (h : other ≠ name) :
    (slots.map fun entry => if entry.1 = name then (name, slot) else entry).lookup other =
      slots.lookup other := by
  have hne : (other == name) = false := by simpa using h
  induction slots with
  | nil => rfl
  | cons entry rest ih =>
    obtain ⟨key, old⟩ := entry
    by_cases hkey : key = name
    · rw [List.map_cons, if_pos hkey, List.lookup_cons, List.lookup_cons, hkey, hne, ih]
    · rw [List.map_cons, if_neg hkey, List.lookup_cons, List.lookup_cons, ih]

section Lookup

variable {α β : Type} [BEq α] [LawfulBEq α] [DecidableEq α] {key : α}

omit [DecidableEq α] in
/-- What is found is there. -/
theorem mem_of_lookup_eq_some {slots : List (α × β)} {value : β}
    (h : slots.lookup key = some value) : (key, value) ∈ slots := by
  obtain ⟨before, after, rfl, -⟩ := List.lookup_eq_some_iff.mp h
  exact List.mem_append_right _ List.mem_cons_self

theorem lookup_filter_of_ne (slots : List (α × β)) {other : α} (h : other ≠ key) :
    (slots.filter fun entry => entry.1 ≠ key).lookup other = slots.lookup other := by
  induction slots with
  | nil => rfl
  | cons entry rest ih =>
    obtain ⟨first, value⟩ := entry
    by_cases hkey : first = key
    · have hne : (other == first) = false := by simpa [hkey] using h
      rw [List.filter_cons_of_neg (by simpa using hkey), List.lookup_cons, hne, ih]
    · rw [List.filter_cons_of_pos (by simpa using hkey), List.lookup_cons, List.lookup_cons, ih]

theorem lookup_filter_self (slots : List (α × β)) :
    (slots.filter fun entry => entry.1 ≠ key).lookup key = none := by
  induction slots with
  | nil => rfl
  | cons entry rest ih =>
    obtain ⟨first, value⟩ := entry
    by_cases hkey : first = key
    · rw [List.filter_cons_of_neg (by simpa using hkey), ih]
    · have hne : (key == first) = false := by simpa using Ne.symm hkey
      rw [List.filter_cons_of_pos (by simpa using hkey), List.lookup_cons, hne]
      exact ih

theorem lookup_concat {slots : List (α × β)} {value : β} {other : α} (h : slots.lookup key = none) :
    (slots ++ [(key, value)]).lookup other =
      if other = key then some value else slots.lookup other := by
  rw [List.lookup_append]
  by_cases hother : other = key
  · rw [if_pos hother, hother, h]
    simp
  · have hne : (other == key) = false := by simpa using hother
    rw [if_neg hother, List.lookup_cons, hne]
    simp

end Lookup

theorem slots_set_of_isSome (slot : Slot) (h : (table.slot? name).isSome) :
    (table.set name slot).slots =
      table.slots.map fun entry => if entry.1 = name then (name, slot) else entry :=
  if_pos h

theorem slots_set_of_eq_none (slot : Slot) (h : table.slot? name = none) :
    (table.set name slot).slots = table.slots ++ [(name, slot)] :=
  if_neg (by simp [h])

/-- A state is set for its name and for no other. -/
theorem slot?_set (table : Slots) (name : Text) (slot : Slot) (other : Text) :
    (table.set name slot).slot? other = if other = name then some slot else table.slot? other := by
  rw [slot?, slot?]
  by_cases hsome : (table.slot? name).isSome
  · rw [slots_set_of_isSome slot hsome]
    by_cases h : other = name
    · rw [if_pos h, h, lookup_map_of_mem hsome]
    · rw [if_neg h, lookup_map_of_ne h]
  · have hnone : table.slot? name = none := Option.not_isSome_iff_eq_none.mp hsome
    rw [slots_set_of_eq_none slot hnone]
    exact lookup_concat hnone

/-- Only the name is unloaded. -/
theorem slot?_erase (table : Slots) (name other : Text) :
    (table.erase name).slot? other = if other = name then none else table.slot? other := by
  by_cases h : other = name
  · rw [if_pos h, h]
    exact lookup_filter_self table.slots
  · rw [if_neg h]
    exact lookup_filter_of_ne table.slots h

@[simp] theorem name?_set (table : Slots) (name : Text) (slot : Slot) (handle : Handle) :
    (table.set name slot).name? handle = table.name? handle := rfl

@[simp] theorem name?_erase (table : Slots) (name : Text) (handle : Handle) :
    (table.erase name).name? handle = table.name? handle := rfl

theorem entry?_eq_some_iff {entry : Entry} : table.entry? handle = some entry ↔
    ∃ name, table.name? handle = some name ∧ table.slot? name = some (.ready entry) ∧
      entry.handle = handle := by
  rw [Slots.entry?]
  constructor
  · intro h
    -- The name of the handle is looked up, then its entry, and then the handles are compared.
    split at h
    · rename_i found hfound
      split at h
      · rename_i hhandle
        obtain ⟨name, hname, hslot⟩ := Option.bind_eq_some_iff.mp hfound
        obtain rfl := Option.some.inj h
        exact ⟨name, hname, hslot, hhandle⟩
      · simp at h
    · simp at h
  · rintro ⟨name, hname, hslot, hhandle⟩
    simp [hname, hslot, hhandle]

/-! ### Sections

What is told to the caller is part of the cases, since it is the guards that decide it. -/

/-- A wish for a name is passed over, or adds a reference, or claims the name. -/
theorem claim_cases (table : Slots) (name : Text) :
    ((∀ handle, (table.claim name).1 ≠ .shared handle) ∧ (table.claim name).1 ≠ .claimed ∧
        (table.claim name).2 = table) ∨
      (∃ entry, table.slot? name = some (.ready entry) ∧ table.claim name =
        (.shared entry.handle, table.set name (.ready { entry with refs := entry.refs + 1 }))) ∨
      (table.slot? name = none ∧ table.claim name = (.claimed, table.set name .loading)) := by
  rcases h : table.slot? name with _ | (_ | entry | ⟨error, source⟩)
  · exact .inr (.inr ⟨rfl, by simp [claim, h]⟩)
  · exact .inl (by simp [claim, h])
  · exact .inr (.inl ⟨entry, rfl, by simp [claim, h]⟩)
  · exact .inl (by simp [claim, h])

/-- A reference to a handle is refused, or it is not the last one, or it is. -/
theorem release_cases (table : Slots) (handle : Handle) :
    (table.entry? handle = none ∧ table.release handle = (.error .unknownHandle, table)) ∨
      ∃ name entry, table.name? handle = some name ∧ table.slot? name = some (.ready entry) ∧
        entry.handle = handle ∧
          ((1 < entry.refs ∧ table.release handle =
              (.ok false, table.set name (.ready { entry with refs := entry.refs - 1 }))) ∨
            (entry.refs ≤ 1 ∧ table.release handle = (.ok true, { table.erase name with
              names := table.names.filter fun named => named.1 ≠ handle
              retired := table.retired ++ [entry.program] }))) := by
  rcases h : table.entry? handle with _ | entry
  · refine .inl ⟨rfl, ?_⟩
    rw [release, h]
    cases table.name? handle <;> rfl
  · obtain ⟨name, hname, hslot, hhandle⟩ := entry?_eq_some_iff.mp h
    refine .inr ⟨name, entry, hname, hslot, hhandle, ?_⟩
    -- The last reference unloads the name and retires the program.
    by_cases hrefs : entry.refs ≤ 1
    · exact .inr ⟨hrefs, by simp [release, hname, h, hrefs]⟩
    · exact .inl ⟨Nat.lt_of_not_le hrefs, by simp [release, hname, h, hrefs]⟩

/-- A wish for a new program is passed over, or marks the name. -/
theorem mark_cases (table : Slots) (name : Text) :
    ((∀ handle source, (table.mark name).1 ≠ .marked handle source) ∧
        (table.mark name).2 = table) ∨
      ∃ entry, table.slot? name = some (.ready entry) ∧ entry.reloading = false ∧
        table.mark name = (.marked entry.handle entry.source,
          table.set name (.ready { entry with reloading := true })) := by
  rcases h : table.slot? name with _ | (_ | entry | ⟨error, source⟩)
  · exact .inl (by simp [mark, h])
  · exact .inl (by simp [mark, h])
  · cases hreloading : entry.reloading with
    | true => exact .inl (by simp [mark, h, hreloading])
    | false => exact .inr ⟨entry, rfl, hreloading, by simp [mark, h, hreloading]⟩
  · exact .inl (by simp [mark, h])

/-- The outcome for a marked name is recorded in its entry, or the handle is gone and a new program
is retired at once. -/
theorem replace_cases (table : Slots) (name : Text) (handle : Handle) (outcome : Outcome) :
    (∃ entry, table.slot? name = some (.ready entry) ∧ entry.handle = handle ∧
        ((∃ source program, outcome = .ok (source, program) ∧
            table.replace name handle outcome = (.ok (),
              { table.set name (.ready { entry with source, program, reloading := false }) with
                retired := table.retired ++ [entry.program] })) ∨
          ∃ failure, outcome = .error failure ∧ table.replace name handle outcome =
            (.error failure.error, table.set name (.ready { entry with reloading := false })))) ∨
      ((∀ entry, table.slot? name = some (.ready entry) → entry.handle ≠ handle) ∧
        table.replace name handle outcome = (.error (.notLoaded name), { table with
          retired := table.retired ++ outcome.toOption.toList.map Prod.snd })) := by
  -- Wherever the handle has gone, the same is done about the outcome.
  have habandon : replace.abandon table name outcome = (.error (.notLoaded name), { table with
      retired := table.retired ++ outcome.toOption.toList.map Prod.snd }) := by
    cases outcome <;> simp [replace.abandon, Except.toOption]
  rcases h : table.slot? name with _ | (_ | entry | ⟨error, source⟩)
  · exact .inr (by simp [replace, h, habandon])
  · exact .inr (by simp [replace, h, habandon])
  · by_cases hhandle : entry.handle = handle
    · refine .inl ⟨entry, rfl, hhandle, ?_⟩
      rcases outcome with failure | ⟨source, program⟩
      · exact .inr ⟨failure, rfl, by simp [replace, h, hhandle]⟩
      · exact .inl ⟨source, program, rfl, by simp [replace, h, hhandle, set]⟩
    · refine .inr ⟨fun other hother => ?_, by simp [replace, h, hhandle, habandon]⟩
      obtain rfl : entry = other := by simpa using hother
      exact hhandle
  · exact .inr (by simp [replace, h, habandon])

/-- A failure is forgotten, or there is none. -/
theorem clearFailed_cases (table : Slots) (name : Text) :
    (table.clearFailed name).2 = table ∨
      ∃ error source, table.slot? name = some (.failed error source) ∧
        table.clearFailed name = (true, table.erase name) := by
  rcases h : table.slot? name with _ | (_ | entry | ⟨error, source⟩)
  · exact .inl (by simp [clearFailed, h])
  · exact .inl (by simp [clearFailed, h])
  · exact .inl (by simp [clearFailed, h])
  · exact .inr ⟨error, source, rfl, by simp [clearFailed, h]⟩

/-! ### Live handles

Sections that neither make a handle nor take one away leave the names of handles as they are. -/

theorem names_claim (table : Slots) (name : Text) : (table.claim name).2.names = table.names := by
  rcases table.claim_cases name with ⟨-, -, hclaim⟩ | ⟨entry, -, hclaim⟩ | ⟨-, hclaim⟩
  · rw [hclaim]
  · rw [hclaim, set]
  · rw [hclaim, set]

theorem names_mark (table : Slots) (name : Text) : (table.mark name).2.names = table.names := by
  rcases table.mark_cases name with ⟨-, hmark⟩ | ⟨entry, -, -, hmark⟩
  · rw [hmark]
  · rw [hmark, set]

theorem names_replace (table : Slots) (name : Text) (handle : Handle) (outcome : Outcome) :
    (table.replace name handle outcome).2.names = table.names := by
  rcases table.replace_cases name handle outcome with ⟨entry, -, -, h⟩ | ⟨-, hreplace⟩
  · rcases h with ⟨source, program, -, hreplace⟩ | ⟨failure, -, hreplace⟩
    · rw [hreplace, set]
    · rw [hreplace, set]
  · rw [hreplace]

theorem names_clearFailed (table : Slots) (name : Text) :
    (table.clearFailed name).2.names = table.names := by
  rcases table.clearFailed_cases name with hclear | ⟨error, source, -, hclear⟩
  · rw [hclear]
  · rw [hclear, erase]

end ShaderBundle.Slots
