import ShaderBundle.Proofs.Registry.Traffic

/-!
# What programs a table holds

A table holds the programs of its ready names and the retired ones. A section moves programs about
within the table, and it takes in the program of the outcome that it records; only a sweep lets go
of programs.

## Programs are counted

What has to be known of a section is that it neither drops a program without telling nor holds one
twice. Both are in one equation: behind a section every reference is held as often as before, and
once more if the section brings it. Replacing an entry moves its program to the retired ones,
unloading a name does the same, and an outcome that comes too late is retired as it comes. In terms
of lists these are quite different changes; in terms of counts each is a line of arithmetic.

## Names that occur once

The states of names are kept in a list of pairs. To set a name changes every pair with that name, so
the equation needs that there is one (`Slots.Keyed`), which is kept along with it. This is the only
place where it matters how the table is stored.

## Main definitions

* `Slots.programs` lists the programs of ready names, `Slots.held` the retired ones too.
* `Section.brought` lists the programs that a section takes in.

## Main results

* `Traffic.holds_after`: every section but a sweep holds on to what was held and takes in what it is
  brought.
-/

namespace ShaderBundle

/-- The program of a ready name. -/
def Slot.programs : Slot → List ProgramRef
  | ready entry => [entry.program]
  | loading | failed _ _ => []

/-- The program of a successful build. -/
def Outcome.programs (outcome : Outcome) : List ProgramRef :=
  outcome.toOption.toList.map Prod.snd

namespace Slots

variable {table : Slots} {name : Text}

/-- The programs of ready names. -/
def programs (table : Slots) : List ProgramRef :=
  table.ready.map fun (_, entry) => entry.program

/-- The programs that a table keeps. -/
def held (table : Slots) : List ProgramRef :=
  table.programs ++ table.retired

/-- No name is in the table twice. -/
def Keyed (table : Slots) : Prop :=
  (table.slots.map Prod.fst).Nodup

/-- The programs of a name, if it is ready. -/
def programsOf (table : Slots) (name : Text) : List ProgramRef :=
  (table.slot? name).elim [] Slot.programs

theorem programs_eq_flatMap (table : Slots) :
    table.programs = table.slots.flatMap fun entry => entry.2.programs := by
  rw [programs, ready]
  induction table.slots with
  | nil => rfl
  | cons entry rest ih =>
    obtain ⟨key, _ | _ | _⟩ := entry
    · simpa [Slot.programs] using ih
    · simpa [Slot.programs] using ih
    · simpa [Slot.programs] using ih

theorem mem_programs_iff {ref : ProgramRef} : ref ∈ table.programs ↔
    ∃ name entry, (name, .ready entry) ∈ table.slots ∧ entry.program = ref := by
  rw [programs_eq_flatMap, List.mem_flatMap]
  constructor
  · rintro ⟨⟨name, _ | entry | _⟩, hmem, href⟩
    · simp [Slot.programs] at href
    · exact ⟨name, entry, hmem, (List.mem_singleton.mp href).symm⟩
    · simp [Slot.programs] at href
  · rintro ⟨name, entry, hmem, rfl⟩
    exact ⟨_, hmem, List.mem_singleton_self _⟩

theorem mem_of_slot? {slot : Slot} (h : table.slot? name = some slot) :
    (name, slot) ∈ table.slots :=
  mem_of_lookup_eq_some h

theorem map_eq_self_of_notMem {slots : List (Text × Slot)} {slot : Slot}
    (h : name ∉ slots.map Prod.fst) :
    (slots.map fun entry => if entry.1 = name then (name, slot) else entry) = slots := by
  refine (List.map_congr_left fun _ hentry => if_neg fun heq => h ?_).trans (List.map_id _)
  exact heq ▸ List.mem_map_of_mem hentry

theorem filter_eq_self_of_notMem {slots : List (Text × Slot)} (h : name ∉ slots.map Prod.fst) :
    (slots.filter fun entry => entry.1 ≠ name) = slots :=
  List.filter_eq_self.mpr fun _ hentry =>
    decide_eq_true fun heq => h (heq ▸ List.mem_map_of_mem hentry)

/-- Replacing the state of a name replaces its program. -/
theorem count_flatMap_map {slots : List (Text × Slot)} (hkeys : (slots.map Prod.fst).Nodup)
    {old : Slot} (hold : slots.lookup name = some old) (slot : Slot) (ref : ProgramRef) :
    ((slots.map fun entry => if entry.1 = name then (name, slot) else entry).flatMap
        fun entry => entry.2.programs).count ref + old.programs.count ref =
      (slots.flatMap fun entry => entry.2.programs).count ref + slot.programs.count ref := by
  induction slots with
  | nil => simp at hold
  | cons entry rest ih =>
    obtain ⟨key, value⟩ := entry
    obtain ⟨hkey, hrest⟩ := List.nodup_cons.mp hkeys
    by_cases hname : key = name
    -- The name is here, and so it is nowhere in the rest.
    · subst hname
      obtain rfl : value = old := by simpa using hold
      rw [List.map_cons, if_pos rfl, map_eq_self_of_notMem hkey]
      simp only [List.flatMap_cons, List.count_append]
      omega
    · have hne : (name == key) = false := by simpa using Ne.symm hname
      rw [List.lookup_cons, hne] at hold
      have := ih hrest hold
      rw [List.map_cons, if_neg hname]
      simp only [List.flatMap_cons, List.count_append]
      omega

/-- Unloading a name drops its program. -/
theorem count_flatMap_filter {slots : List (Text × Slot)} (hkeys : (slots.map Prod.fst).Nodup)
    (ref : ProgramRef) :
    ((slots.filter fun entry => entry.1 ≠ name).flatMap fun entry => entry.2.programs).count ref +
        ((slots.lookup name).elim [] Slot.programs).count ref =
      (slots.flatMap fun entry => entry.2.programs).count ref := by
  induction slots with
  | nil => rfl
  | cons entry rest ih =>
    obtain ⟨key, value⟩ := entry
    obtain ⟨hkey, hrest⟩ := List.nodup_cons.mp hkeys
    by_cases hname : key = name
    -- The same, and there may be no such name at all.
    · subst hname
      rw [List.filter_cons_of_neg (by simp), filter_eq_self_of_notMem hkey, List.lookup_cons]
      simp only [beq_self_eq_true, Option.elim_some, List.flatMap_cons, List.count_append]
      omega
    · have hne : (name == key) = false := by simpa using Ne.symm hname
      have := ih hrest
      rw [List.filter_cons_of_pos (by simpa using hname), List.lookup_cons, hne]
      simp only [List.flatMap_cons, List.count_append]
      omega

theorem count_programs_set (hkeys : table.Keyed) (name : Text) (slot : Slot) (ref : ProgramRef) :
    (table.set name slot).programs.count ref + (table.programsOf name).count ref =
      table.programs.count ref + slot.programs.count ref := by
  rw [programs_eq_flatMap, programs_eq_flatMap, programsOf]
  rcases hold : table.slot? name with _ | old
  · rw [slots_set_of_eq_none slot hold]
    simp
  · rw [slots_set_of_isSome slot (by simp [hold])]
    exact count_flatMap_map hkeys hold slot ref

theorem count_programs_erase (hkeys : table.Keyed) (name : Text) (ref : ProgramRef) :
    (table.erase name).programs.count ref + (table.programsOf name).count ref =
      table.programs.count ref := by
  rw [programs_eq_flatMap, programs_eq_flatMap]
  exact count_flatMap_filter hkeys ref

theorem Keyed.set (hkeys : table.Keyed) (name : Text) (slot : Slot) :
    (table.set name slot).Keyed := by
  rw [Keyed]
  rcases hold : table.slot? name with _ | old
  -- A name that is new to the table comes last.
  · have hnew : name ∉ table.slots.map Prod.fst := by
      intro hmem
      obtain ⟨entry, hentry, heq⟩ := List.mem_map.mp hmem
      have := List.lookup_eq_none_iff.mp hold entry hentry
      simp [heq] at this
    rw [slots_set_of_eq_none slot hold, List.map_append]
    simpa using List.Nodup.concat hnew hkeys
  -- One that is there keeps its place.
  · rw [slots_set_of_isSome slot (by simp [hold]), List.map_map]
    have hsame :
        (Prod.fst ∘ fun entry : Text × Slot => if entry.1 = name then (name, slot) else entry) =
          Prod.fst := by
      funext entry
      by_cases h : entry.1 = name <;> simp [h]
    rw [hsame]
    exact hkeys

theorem Keyed.erase (hkeys : table.Keyed) (name : Text) : (table.erase name).Keyed :=
  List.Nodup.sublist (List.filter_sublist.map _) hkeys

end Slots

/-- The programs that a section takes in. -/
def Section.brought : Section → List ProgramRef
  | settle _ outcome | replace _ _ outcome => outcome.programs
  | _ => []

namespace Slots

/-- A section leads to a table that holds what was held and what was brought. -/
structure Holds (table later : Slots) (brought : List ProgramRef) : Prop where
  /-- No name is in the table twice. -/
  keyed : later.Keyed
  /-- What is held. -/
  count : ∀ ref, later.held.count ref = table.held.count ref + brought.count ref

variable {table : Slots} {name : Text}

theorem holds_self (hkeys : table.Keyed) : table.Holds table [] :=
  ⟨hkeys, fun _ => rfl⟩

/-- A name gets another state with the same program, if any. -/
theorem holds_set (hkeys : table.Keyed) {slot : Slot} {brought : List ProgramRef}
    (h : ∀ ref, slot.programs.count ref = (table.programsOf name).count ref + brought.count ref) :
    table.Holds (table.set name slot) brought := by
  refine ⟨hkeys.set name slot, fun ref => ?_⟩
  have hset := count_programs_set hkeys name slot ref
  have hslot := h ref
  change ((table.set name slot).programs ++ table.retired).count ref =
    (table.programs ++ table.retired).count ref + _
  simp only [List.count_append]
  omega

theorem holds_erase (hkeys : table.Keyed) (h : table.programsOf name = []) :
    table.Holds (table.erase name) [] := by
  refine ⟨hkeys.erase name, fun ref => ?_⟩
  have herase := count_programs_erase hkeys name ref
  rw [h] at herase
  change ((table.erase name).programs ++ table.retired).count ref =
    (table.programs ++ table.retired).count ref + _
  simp only [List.count_append, List.count_nil] at herase ⊢
  omega

theorem programsOf_ready {entry : Entry} (h : table.slot? name = some (.ready entry)) :
    table.programsOf name = [entry.program] := by
  rw [programsOf, h]
  rfl

theorem programsOf_eq_nil (h : ∀ entry, table.slot? name ≠ some (.ready entry)) :
    table.programsOf name = [] := by
  rw [programsOf]
  rcases hslot : table.slot? name with _ | (_ | entry | _)
  · rfl
  · rfl
  · exact absurd hslot (h entry)
  · rfl

/-- An entry is changed but keeps its program. -/
theorem holds_entry (hkeys : table.Keyed) {entry entry' : Entry}
    (hslot : table.slot? name = some (.ready entry)) (hprogram : entry'.program = entry.program) :
    table.Holds (table.set name (.ready entry')) [] :=
  holds_set hkeys fun ref => by simp [programsOf_ready hslot, Slot.programs, hprogram]

theorem holds_release (hkeys : table.Keyed) (handle : Handle) :
    table.Holds (table.release handle).2 [] := by
  rcases table.release_cases handle with ⟨-, hrelease⟩ | ⟨name, entry, -, hslot, rfl, h'⟩
  · rw [hrelease]
    exact holds_self hkeys
  -- The entry loses one of several references, or the name is unloaded and its program retired.
  · rcases h' with ⟨-, hrelease⟩ | ⟨-, hrelease⟩
    · rw [hrelease]
      exact holds_entry hkeys hslot rfl
    · rw [hrelease]
      refine ⟨hkeys.erase name, fun ref => ?_⟩
      have herase := count_programs_erase hkeys name ref
      rw [programsOf_ready hslot] at herase
      change ((table.erase name).programs ++ (table.retired ++ [entry.program])).count ref =
        (table.programs ++ table.retired).count ref + _
      simp only [List.count_append, List.count_nil]
      omega

/-- What a sweep takes out and what stays is what was held. -/
theorem count_held_sweep (table : Slots) (isHeld : ProgramRef → Bool) (ref : ProgramRef) :
    (table.sweep isHeld).2.held.count ref + (table.sweep isHeld).1.count ref =
      table.held.count ref := by
  have hsplit : table.retired.count ref = (table.retired.filter isHeld).count ref +
      (table.retired.filter fun program => !isHeld program).count ref :=
    List.countP_eq_countP_filter_add _ _ _
  change (table.programs ++ table.retired.filter isHeld).count ref + _ =
    (table.programs ++ table.retired).count ref
  rw [List.count_append, List.count_append, hsplit]
  exact Nat.add_assoc _ _ _

theorem holds_replace (hkeys : table.Keyed) (name : Text) (handle : Handle) (outcome : Outcome) :
    table.Holds (table.replace name handle outcome).2 outcome.programs := by
  rcases table.replace_cases name handle outcome with ⟨entry, hslot, rfl, h'⟩ | ⟨-, hreplace⟩
  -- The handle is live: the old program is retired for the new one, or a failure leaves it.
  · rcases h' with ⟨source, program, rfl, hreplace⟩ | ⟨failure, rfl, hreplace⟩
    · rw [hreplace]
      refine ⟨hkeys.set name _, fun ref => ?_⟩
      have hset := count_programs_set hkeys name
        (.ready { entry with source, program, reloading := false }) ref
      rw [programsOf_ready hslot] at hset
      change ((table.set name _).programs ++ (table.retired ++ [entry.program])).count ref =
        (table.programs ++ table.retired).count ref + _
      simp only [List.count_append, Slot.programs, Outcome.programs, Except.toOption,
        Option.toList_some, List.map_cons, List.map_nil] at hset ⊢
      omega
    · rw [hreplace]
      exact holds_entry hkeys hslot rfl
  -- The handle is gone, and what was built for it is retired at once.
  · rw [hreplace]
    refine ⟨hkeys, fun ref => ?_⟩
    change (table.programs ++ (table.retired ++ _)).count ref =
      (table.programs ++ table.retired).count ref + _
    simp only [List.count_append, Outcome.programs]
    omega

end Slots

namespace Traffic

variable {traffic : Traffic}

/-- **Every section but a sweep holds on to what was held and takes in what it is brought.** -/
theorem holds_after (h : traffic.Owned) (hkeys : traffic.table.Keyed) {step : Section}
    (hallows : traffic.Allows step) (hsweep : ∀ isHeld, step ≠ .sweep isHeld) :
    traffic.table.Holds (traffic.after step).table step.brought := by
  cases step with
  | claim name =>
    rw [table_claim]
    rcases traffic.table.claim_cases name with ⟨-, -, hsame⟩ | ⟨entry, hslot, hclaim⟩ |
      ⟨hslot, hclaim⟩
    · rw [hsame]
      exact Slots.holds_self hkeys
    · rw [hclaim]
      exact Slots.holds_entry hkeys hslot rfl
    · rw [hclaim]
      exact Slots.holds_set hkeys fun ref => by
        simp [Slots.programsOf, hslot, Slot.programs, Section.brought]
  -- The name was claimed, so it has no program that could get lost.
  | settle name outcome =>
    have hslot := h.slot?_of_mem hallows
    have hnone : traffic.table.programsOf name = [] := Slots.programsOf_eq_nil (by simp [hslot])
    rcases outcome with failure | ⟨source, program⟩
    · by_cases htransient : failure.error.isTransient
      · simp only [Traffic.after, Slots.settle, if_pos htransient]
        exact Slots.holds_erase hkeys hnone
      · simp only [Traffic.after, Slots.settle, if_neg htransient]
        exact Slots.holds_set hkeys fun ref => by
          simp [hnone, Slot.programs, Section.brought, Outcome.programs, Except.toOption]
    · simp only [Traffic.after, Slots.settle]
      -- The new handle is made in front of the entry, and that is not about programs.
      let named : Slots := { traffic.table with
        issued := traffic.table.issued + 1
        names := traffic.table.names ++ [(⟨traffic.table.issued + 1⟩, name)] }
      have hnamed : named.programsOf name = [] := hnone
      have hkeyed : named.Keyed := hkeys
      have hset : named.Holds (named.set name
          (.ready ⟨⟨traffic.table.issued + 1⟩, source, program, 1, false⟩)) [program] :=
        Slots.holds_set hkeyed fun ref => by simp [hnamed, Slot.programs]
      exact ⟨hset.keyed, hset.count⟩
  | release handle =>
    rw [table_release]
    exact Slots.holds_release hkeys handle
  | mark name =>
    rw [table_mark]
    rcases traffic.table.mark_cases name with ⟨-, hsame⟩ | ⟨entry, hslot, -, hmark⟩
    · rw [hsame]
      exact Slots.holds_self hkeys
    · rw [hmark]
      exact Slots.holds_entry hkeys hslot rfl
  | replace name handle outcome => exact Slots.holds_replace hkeys name handle outcome
  | clearFailed name =>
    rcases traffic.table.clearFailed_cases name with hclear | ⟨error, source, hslot, hclear⟩
    · simp only [Traffic.after, hclear]
      exact Slots.holds_self hkeys
    · simp only [Traffic.after, hclear]
      exact Slots.holds_erase hkeys (Slots.programsOf_eq_nil (by simp [hslot]))
  | sweep isHeld => exact absurd rfl (hsweep isHeld)

end Traffic

end ShaderBundle
