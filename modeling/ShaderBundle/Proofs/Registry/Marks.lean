import ShaderBundle.Proofs.Registry.Holdings

/-!
# Marks of requests

A request that builds leaves a mark at its name, and takes it away with what it records. When
nothing comes in between, the table looks as if the mark had never been there.

Claims and marks are there for other callers, so a request that nobody gets in the way of could do
without them. With these equations the two halves of such a request are put together: what a whole
request makes of the table is said in terms of the table from before, and of no other.

The equations are between tables, not between what can be looked up in them. A name that is set
keeps its place in the list, and setting it twice leaves what was set last, so even the order of
names comes out the same.

## Main results

* `Slots.settle_set`: the outcome for a claimed name.
* `Slots.replace_mark`: the outcome for a marked name.
-/

namespace ShaderBundle.Slots

variable {table : Slots} {name : Text}

/-- The latter state of a name counts. -/
theorem set_set (table : Slots) (name : Text) (slot slot' : Slot) :
    (table.set name slot).set name slot' = table.set name slot' := by
  have hset : (table.set name slot).slot? name = some slot := by rw [slot?_set, if_pos rfl]
  have hsome : ((table.set name slot).slot? name).isSome := by rw [hset]; rfl
  have hslots : ((table.set name slot).set name slot').slots = (table.set name slot').slots := by
    rw [slots_set_of_isSome slot' hsome]
    -- A name that is there is replaced twice in its place; one that is new is added and then
    -- replaced.
    by_cases hname : (table.slot? name).isSome
    · rw [slots_set_of_isSome slot hname, slots_set_of_isSome slot' hname, List.map_map]
      refine List.map_congr_left fun entry _ => ?_
      by_cases heq : entry.1 = name <;> simp [heq]
    · have hnone := Option.not_isSome_iff_eq_none.mp hname
      rw [slots_set_of_eq_none slot hnone, slots_set_of_eq_none slot' hnone, List.map_append,
        map_eq_self_of_notMem]
      · simp
      · rintro hmem
        obtain ⟨entry, hentry, rfl⟩ := List.mem_map.mp hmem
        simpa using List.lookup_eq_none_iff.mp hnone entry hentry
  exact congrArg (fun slots => { table with slots }) hslots

/-- To set the state that a name has changes nothing. -/
theorem set_self (hkeyed : table.Keyed) {slot : Slot} (h : table.slot? name = some slot) :
    table.set name slot = table := by
  have hname : (table.slot? name).isSome := by rw [h]; rfl
  have hsame : (table.slots.map fun entry => if entry.1 = name then (name, slot) else entry) =
      table.slots := by
    refine (List.map_congr_left fun entry hentry => ?_).trans (List.map_id _)
    split
    · rename_i heq
      exact (List.inj_on_of_nodup_map hkeyed hentry (mem_of_slot? h) heq).symm
    · rfl
  exact congrArg (fun slots => { table with slots }) ((slots_set_of_isSome slot hname).trans hsame)

/-- A state that was set is unloaded with the name. -/
theorem erase_set (table : Slots) (name : Text) (slot : Slot) :
    (table.set name slot).erase name = table.erase name := by
  have hslots : ((table.set name slot).erase name).slots = (table.erase name).slots := by
    change (table.set name slot).slots.filter _ = table.slots.filter _
    -- Neither the state that was set nor an older one is left.
    by_cases hname : (table.slot? name).isSome
    · rw [slots_set_of_isSome slot hname]
      induction table.slots with
      | nil => rfl
      | cons entry rest ih =>
        by_cases heq : entry.1 = name <;> simpa [heq] using ih
    · have hnone := Option.not_isSome_iff_eq_none.mp hname
      rw [slots_set_of_eq_none slot hnone, List.filter_append]
      simp
  exact congrArg (fun slots => { table with slots }) hslots

/-- A claim is not seen in what is recorded for it. -/
theorem settle_set (table : Slots) (name : Text) (slot : Slot) (outcome : Outcome) :
    (table.set name slot).settle name outcome = table.settle name outcome := by
  rcases outcome with failure | ⟨source, program⟩
  · by_cases htransient : failure.error.isTransient
    · rw [settle, settle, if_pos htransient, if_pos htransient, erase_set]
    · rw [settle, settle, if_neg htransient, if_neg htransient, set_set]
  -- The handle is made anew and does not depend on the states of names.
  · let handle : Handle := ⟨table.issued + 1⟩
    let entry : Entry := { handle, source, program, refs := 1, reloading := false }
    have hset := set_set table name slot (.ready entry)
    have hslots : ((table.set name slot).set name (.ready entry)).slots =
        (table.set name (.ready entry)).slots := congrArg Slots.slots hset
    exact congrArg (fun slots => (Except.ok handle, ({
      issued := table.issued + 1
      slots
      names := table.names ++ [(handle, name)]
      retired := table.retired } : Slots))) hslots

/-- A mark is not seen in what is recorded for it: nothing if nothing was built, and otherwise the
new program. -/
theorem replace_mark (hkeyed : table.Keyed) {entry : Entry}
    (hslot : table.slot? name = some (.ready entry)) (hidle : entry.reloading = false)
    (outcome : Outcome) :
    (table.set name (.ready { entry with reloading := true })).replace name entry.handle outcome =
      match outcome with
      | .error failure => (.error failure.error, table)
      | .ok (source, program) => (.ok (),
        { table.set name (.ready { entry with source, program }) with
          retired := table.retired ++ [entry.program] }) := by
  let marked : Entry := { entry with reloading := true }
  -- The marked entry is found, with its own handle, so the outcome is recorded in it.
  have hmarked : (table.set name (.ready marked)).slot? name = some (.ready marked) := by
    rw [slot?_set, if_pos rfl]
  have hidle' : ∀ source program, { marked with source, program, reloading := false } =
      { entry with source, program } := fun source program => by rw [← hidle]
  rcases (table.set name (.ready marked)).replace_cases name entry.handle outcome with
    ⟨found, hfound, -, ⟨source, program, rfl, hreplace⟩ | ⟨failure, rfl, hreplace⟩⟩ | ⟨hgone, -⟩
  · obtain rfl : marked = found := by simpa [hmarked] using hfound
    rw [hidle', set_set] at hreplace
    exact hreplace
  · obtain rfl : marked = found := by simpa [hmarked] using hfound
    rw [set_set, show { marked with reloading := false } = entry from hidle' _ _,
      set_self hkeyed hslot] at hreplace
    exact hreplace
  -- The handle cannot have gone.
  · exact absurd rfl (hgone marked hmarked)

/-- What becomes of a wish for a new program depends on the state of the name. -/
theorem fst_mark_congr {later : Slots} (h : later.slot? name = table.slot? name) :
    (later.mark name).1 = (table.mark name).1 := by
  rw [mark, mark, h]
  rcases table.slot? name with _ | (_ | entry | _)
  · rfl
  · rfl
  · simp only []
    split <;> rfl
  · rfl

end ShaderBundle.Slots
