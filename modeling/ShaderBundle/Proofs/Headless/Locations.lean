import Mathlib.Data.List.Perm.Subperm
import ShaderBundle.Proofs.Headless.Numbering

/-!
# When locations are distinct

A stage has locations for what it reads and for what it writes. Some of them are written in its
source. A declaration without a layout gets the least one that is free, but a varying gets the one
of its name, whatever else is in use. So the locations of vertex inputs and of fragment outputs come
out distinct if those that are written are, and at the side of the varyings one of them may be given
out that is written too.

## Two rules for the next location

At a side that is not that of the varyings, the next location is searched for among the numbers from
zero on, and it is noted as in use. Written locations are noted before the first line is reached. So
the number that a line gets is not one of those that are written, wherever they are written, and not
one that an earlier line got.

At the side of the varyings the location is the place of the name in the table. It is neither
compared with what is written nor noted. Two declarations have one location if they have one name,
which is an error of the source or a name declared in two branches; and a name may stand at a place
whose number is written.

## The condition is exact

`locations_distinct_iff` is an equivalence for either side, for every stage, source and table. Its
condition speaks of the names of the varyings and of the table behind the source, in which they have
their places. Two examples of one stage show that it holds and fails for sources that differ in one
digit.

## Main definitions

* `Side` is one of the two sides of a stage, `Allocation.taken` the locations in use there.
* `locations` are the numbers of a side.
* `varyingNames` are the names of the varyings of a source.

## Main results

* `nextFree_notMem`: what is given out as free is free.
* `locations_distinct_iff`: when the locations of a side are distinct.
* `locations_not_distinct_writtenFirst`: a source whose locations are not.
-/

namespace ShaderBundle.Headless

open Allocation

/-! ### What is free

The search is given as much fuel as there are numbers in use, and one step more. It cannot run out:
among so many numbers there is one that is not in the list. -/

/-- If the search ends at a number that is taken, so are all that it went by. -/
theorem mem_of_nextFreeFrom_mem {taken : List Nat} {fuel start : Nat}
    (h : nextFreeFrom taken fuel start ∈ taken) :
    ∀ n, start ≤ n → n ≤ start + fuel → n ∈ taken := by
  -- on the fuel: the search has gone by a number only if it was taken
  induction fuel generalizing start with
  | zero =>
    intro n hlow hhigh
    obtain rfl : n = start := by omega
    exact h
  | succ fuel ih =>
    rw [nextFreeFrom] at h
    split at h
    next hstart =>
      intro n hlow hhigh
      rcases Nat.eq_or_lt_of_le hlow with rfl | hlt
      · exact List.contains_iff_mem.mp hstart
      · exact ih h n hlt (by omega)
    next hstart => exact absurd (List.contains_iff_mem.mpr h) hstart

/-- What is given out as free is free: a list cannot have one number more than it is long. -/
theorem nextFree_notMem (taken : List Nat) : nextFree taken ∉ taken := by
  intro h
  have hsubset : List.range (taken.length + 1) ⊆ taken := fun n hn =>
    mem_of_nextFreeFrom_mem h n (Nat.zero_le n) (by rw [List.mem_range] at hn; omega)
  have hlen := (List.subperm_of_subset List.nodup_range hsubset).length_le
  rw [List.length_range] at hlen
  omega

/-! ### The sides of a stage

`locations` makes a numbering of a side. Reading a location and writing a layout are the same for
both sides; they differ in the storage and in what is in use. -/

/-- A side of a stage. -/
inductive Side where
  | input
  | output
  deriving DecidableEq, Repr

/-- The storage of the declarations there. -/
def Side.storage : Side → Storage
  | input => .input
  | output => .output

/-- The locations in use at a side. -/
def Allocation.taken (known : Allocation) : Side → List Nat
  | .input => known.inputs
  | .output => known.outputs

/-- The location that a line of a side has in a layout. -/
def locationAt? (side : Side) (line : Text) : Option Nat :=
  match explicitLocation? line with
  | some (storage, n) => if storage = side.storage then some n else none
  | none => none

/-- The location that the next declaration of a side gets. -/
def nextLocation (side : Side) (stage : Stage) (known : Allocation) (declaration : Declaration) :
    Nat :=
  if isVarying stage side.storage then (known.varyings.locate declaration.name).1
  else nextFree (known.taken side)

variable {side : Side} {stage : Stage} {known : Allocation} {declaration : Declaration}
  {line : Text}

theorem locationAt?_eq_some_iff {n : Nat} :
    locationAt? side line = some n ↔ explicitLocation? line = some (side.storage, n) := by
  rw [locationAt?]
  split
  next storage m h =>
    rw [h, Option.some.injEq, Prod.mk.injEq]
    split
    next hstorage => simp [hstorage]
    next hstorage => simp [hstorage]
  next h => simp [h]

theorem give_of_storage_eq (h : declaration.storage = side.storage) :
    (give stage known declaration).1 =
      locationLayout (nextLocation side stage known declaration) := by
  rw [give, nextLocation, h]
  split
  · rfl
  · cases side <;> rfl

/-- The location that is put in front of a declaration is read back. -/
theorem explicitLocation?_locationLayout (h : Declaration.bare? line = some declaration) (n : Nat) :
    explicitLocation? (Allocation.insert (locationLayout n) line) =
      if n < wordBound then some (declaration.storage, n) else none := by
  have hargument : numberArgument? "location".toList (equation "location".toList n) =
      if n < wordBound then some n else none := by
    rw [← List.nil_append (equation _ n),
      numberArgument?_equation (List.forall_mem_nil _) isKey_location, if_pos rfl]
  rw [explicitLocation?_eq, layoutOf?_locationLayout h, Option.bind_some]
  by_cases hlt : n < wordBound
  · simp only [List.findSome?_cons, hargument, hlt, if_true, Option.map_some]
  · simp only [List.findSome?_cons, hargument, hlt, if_false, List.findSome?_nil, Option.map_none]

/-- A binding is no location. -/
theorem explicitLocation?_bindingLayout (h : Declaration.bare? line = some declaration) (n : Nat) :
    explicitLocation? (Allocation.insert (bindingLayout n) line) = none := by
  have hset : numberArgument? "location".toList (equation "set".toList 0) = none := by
    decide +kernel
  have hbinding : numberArgument? "location".toList ([' '] ++ equation "binding".toList n) =
      none := by
    rw [numberArgument?_equation (Text.forall_mem (by decide)) isKey_binding,
      if_neg (by decide +kernel)]
  rw [explicitLocation?_eq, layoutOf?_bindingLayout h, Option.bind_some]
  simp only [List.findSome?_cons, hset, hbinding]
  rfl

theorem locationAt?_insert (h : Declaration.bare? line = some declaration)
    (hstorage : declaration.storage = side.storage) (n : Nat) :
    locationAt? side (Allocation.insert (locationLayout n) line) =
      if n < wordBound then some n else none := by
  by_cases hlt : n < wordBound
  · rw [if_pos hlt, locationAt?_eq_some_iff, explicitLocation?_locationLayout h, if_pos hlt,
      hstorage]
  · rw [if_neg hlt, locationAt?, explicitLocation?_locationLayout h, if_neg hlt]

theorem locationAt?_insert_of_ne (h : Declaration.bare? line = some declaration)
    (hstorage : declaration.storage ≠ side.storage) (stage : Stage) (known : Allocation) :
    locationAt? side (Allocation.insert (give stage known declaration).1 line) = none := by
  rw [locationAt?]
  rcases give_cases stage known declaration with ⟨-, n, hgive⟩ | ⟨-, n, hgive⟩
  · rw [hgive, explicitLocation?_bindingLayout h]
  · rw [hgive, explicitLocation?_locationLayout h]
    by_cases hlt : n < wordBound
    · simp only [hlt, if_true, hstorage, if_false]
    · simp only [hlt, if_false]

theorem explicitLocation?_of_bare? (h : Declaration.bare? line = some declaration) :
    explicitLocation? line = none := by
  rw [explicitLocation?_eq, layoutOf?_of_bare? h, Option.bind_none]

theorem lt_wordBound_of_locationAt? {n : Nat} (h : locationAt? side line = some n) :
    n < wordBound := by
  rw [locationAt?_eq_some_iff, explicitLocation?_eq] at h
  obtain ⟨⟨arguments, storage⟩, -, h⟩ := Option.bind_eq_some_iff.mp h
  obtain ⟨m, hm, heq⟩ := Option.map_eq_some_iff.mp h
  obtain ⟨argument, -, hargument⟩ := List.exists_of_findSome?_eq_some hm
  exact (Prod.mk.inj heq).2 ▸ lt_wordBound_of_numberArgument? hargument

/-- The locations of a side, as numbers that declarations have. -/
def locations (side : Side) : Numbering Nat where
  storage := side.storage
  read? := locationAt? side
  layout := locationLayout
  place := id
  next := nextLocation side
  place_injective := Function.injective_id
  layout_injective _ _ := locationLayout_injective
  give_eq := give_of_storage_eq
  lt_of_read? := lt_wordBound_of_locationAt?
  read?_of_bare? h := by rw [locationAt?, explicitLocation?_of_bare? h]
  read?_insert := locationAt?_insert
  read?_insert_of_ne := locationAt?_insert_of_ne

/-! ### What is in use only grows

Whatever is in use in front of a line is in use in front of every later line. This is all that the
argument for distinct locations needs, beside that a location that is given out was free. -/

theorem taken_subset_give (known : Allocation) (declaration : Declaration) :
    known.taken side ⊆ (give stage known declaration).2.taken side := by
  unfold give
  split
  · exact List.Subset.refl _
  · cases declaration.storage <;> cases side <;>
      first | exact List.Subset.refl _ | exact List.subset_append_left _ _

theorem taken_subset_before {ls : List Text} {j k : Nat} (h : j ≤ k) :
    (before stage known ls j).taken side ⊆ (before stage known ls k).taken side := by
  induction k, h using Nat.le_induction with
  | base => exact List.Subset.refl _
  | succ k _ ih =>
    refine List.Subset.trans ih ?_
    rw [before_succ]
    cases ls[k]?.bind Declaration.bare? with
    | none => exact List.Subset.refl _
    | some declaration => exact taken_subset_give _ _

/-- The locations that are written are in use from the beginning. -/
theorem taken_ofLines (table : Varyings) (source : Text) :
    (ofLines table source.pieces).taken side = (locations side).numbers source := by
  have hread : ∀ line, (locations side).read? line = locationAt? side line := fun _ => rfl
  cases side with
  | input =>
    refine List.filterMap_congr fun line _ => ?_
    rw [hread, locationAt?]
    rcases explicitLocation? line with _ | ⟨_ | _ | _, n⟩ <;> rfl
  | output =>
    refine List.filterMap_congr fun line _ => ?_
    rw [hread, locationAt?]
    rcases explicitLocation? line with _ | ⟨_ | _ | _, n⟩ <;> rfl

/-- A location that is given out as free is in use from then on. -/
theorem nextFree_mem_taken_give (hfixed : isVarying stage side.storage = false)
    (h : declaration.storage = side.storage) (known : Allocation) :
    nextFree (known.taken side) ∈ (give stage known declaration).2.taken side := by
  rw [give, h, hfixed]
  cases side <;> exact List.mem_append_right _ (List.mem_singleton_self _)

namespace Numbering

variable {table : Varyings} {source : Text} {j k n : Nat}

/-- Away from the varyings a location that is given out was free, and is in use from then on. -/
theorem Gets.free (h : (locations side).Gets (.onto table stage source) k n)
    (hfixed : isVarying stage side.storage = false) :
    n ∉ (before stage (ofLines table source.pieces) source.pieces k).taken side ∧
      n ∈ (before stage (ofLines table source.pieces) source.pieces (k + 1)).taken side := by
  obtain ⟨line, declaration, hline, hbare, hstorage, hn⟩ := gets_iff.mp h
  change n = nextLocation side stage _ declaration at hn
  rw [nextLocation, hfixed] at hn
  subst hn
  refine ⟨nextFree_notMem _, ?_⟩
  rw [before_succ, hline, Option.bind_some, hbare]
  exact nextFree_mem_taken_give hfixed hstorage _

theorem Gets.ne_of_lt (hj : (locations side).Gets (.onto table stage source) j n)
    (hk : (locations side).Gets (.onto table stage source) k n)
    (hfixed : isVarying stage side.storage = false) : ¬j < k := fun hlt =>
  (hk.free hfixed).1 (taken_subset_before hlt (hj.free hfixed).2)

/-- Away from the varyings the locations are distinct. -/
theorem distinct_of_fixed (hwritten : ((locations side).numbers source).Nodup)
    (hfixed : isVarying stage side.storage = false) :
    (locations side).Distinct (.onto table stage source) := by
  -- whichever of two lines is later finds the number of the earlier one in use
  refine (distinct_iff hwritten).mpr ⟨fun j k n hj hk => ?_, fun k n hk hmem => ?_⟩
  · have := hj.ne_of_lt hk hfixed
    have := hk.ne_of_lt hj hfixed
    omega
  · rw [← taken_ofLines table source] at hmem
    exact (hk.free hfixed).1 (taken_subset_before (Nat.zero_le k) hmem)

end Numbering

/-! ### The side of the varyings

Here the table takes the part of what is in use. It only grows, too, so the location that a name got
at its line can be read off the table behind the source. -/

namespace Varyings

variable {table table' : Varyings} {name : Text} {n : Nat}

/-- The location that is given to a name is found under it from then on. -/
theorem location?_locate (table : Varyings) (name : Text) :
    (table.locate name).2.location? name = some (table.locate name).1 := by
  rw [locate]
  split
  next location h => exact h
  next h =>
    rw [location?, List.idxOf?, List.findIdx?_append, ← List.idxOf?, ← location?, h]
    simp

theorem location?_of_prefix (h : table.names <+: table'.names)
    (hlocation : table.location? name = some n) : table'.location? name = some n := by
  obtain ⟨rest, hrest⟩ := h
  rw [location?, ← hrest, List.idxOf?, List.findIdx?_append, ← List.idxOf?, ← location?, hlocation,
    Option.some_or]

/-- Two names do not share a location. -/
theorem location?_injective {other : Text} (h : table.location? name = some n)
    (h' : table.location? other = some n) : name = other := by
  obtain ⟨_, hname, -⟩ := List.idxOf?_eq_some_iff.mp h
  obtain ⟨_, hother, -⟩ := List.idxOf?_eq_some_iff.mp h'
  exact hname.symm.trans hother

end Varyings

theorem snd_fill_cons (known : Allocation) (line : Text) (ls : List Text) :
    (fill stage known (line :: ls)).2 =
      (fill stage (before stage known (line :: ls) 1) ls).2 := by
  cases hbare : Declaration.bare? line <;> simp [fill, before, hbare]

theorem location?_of_mem_fill {ls : List Text} {k : Nat} {name : Text} (hline : ls[k]? = some line)
    (hname : varying? stage line = some name) (known : Allocation) :
    (fill stage known ls).2.varyings.location? name =
      some ((before stage known ls k).varyings.locate name).1 := by
  induction ls generalizing known k with
  | nil => simp at hline
  | cons head ls ih =>
    cases k with
    | zero =>
      obtain rfl : head = line := by simpa using hline
      rw [varyings_fill, List.filterMap_cons_some hname, Varyings.record_cons]
      exact Varyings.location?_of_prefix (Varyings.prefix_record _ _)
        (Varyings.location?_locate known.varyings name)
    | succ k => rw [snd_fill_cons, ih (by simpa using hline), ← before_cons_succ]

/-- A stage has varyings at one side only. -/
theorem storage_of_isVarying {storage storage' : Storage} (h : isVarying stage storage = true)
    (h' : isVarying stage storage' = true) : storage = storage' := by
  cases storage <;> cases storage' <;> first | rfl | simp_all [isVarying]

theorem bare?_of_varying? {name : Text} (h : varying? stage line = some name) :
    ∃ declaration, Declaration.bare? line = some declaration ∧
      isVarying stage declaration.storage = true ∧ declaration.name = name := by
  rw [varying?] at h
  split at h
  next declaration hbare =>
    split at h
    next hvarying => exact ⟨declaration, hbare, hvarying, Option.some.inj h⟩
    next => cases h
  next => cases h

/-- The names of the varyings that a source declares without a layout. -/
def varyingNames (stage : Stage) (source : Text) : List Text :=
  source.pieces.filterMap (varying? stage)

namespace Numbering

variable {table : Varyings} {source : Text} {j k n : Nat}

/-- At the side of the varyings, a location that is given out is that of a name. -/
theorem gets_iff_of_isVarying (hvarying : isVarying stage side.storage = true) :
    (locations side).Gets (.onto table stage source) k n ↔ ∃ line name,
      source.pieces[k]? = some line ∧ varying? stage line = some name ∧
      (assign table stage source).2.location? name = some n := by
  constructor
  · intro h
    obtain ⟨line, declaration, hline, hbare, hstorage, hn⟩ := gets_iff.mp h
    change declaration.storage = side.storage at hstorage
    change n = nextLocation side stage _ declaration at hn
    have hname : varying? stage line = some declaration.name := by
      rw [varying?, hbare]
      simp only [hstorage, hvarying, if_true]
    refine ⟨line, declaration.name, hline, hname, ?_⟩
    -- the table only grows, so what it says in the end is what it said at the line
    rw [hn, nextLocation, if_pos hvarying]
    exact location?_of_mem_fill hline hname (ofLines table source.pieces)
  · rintro ⟨line, name, hline, hname, hlocation⟩
    obtain ⟨declaration, hbare, hdeclared, rfl⟩ := bare?_of_varying? hname
    have hstorage := storage_of_isVarying hdeclared hvarying
    refine gets_iff.mpr ⟨line, declaration, hline, hbare, hstorage, ?_⟩
    change n = nextLocation side stage _ declaration
    have hfound := location?_of_mem_fill hline hname (ofLines table source.pieces)
    rw [nextLocation, if_pos hvarying]
    exact Option.some.inj (hlocation.symm.trans hfound)

/-- At the side of the varyings, the locations are distinct if the names are and no name has a
location that is written. -/
theorem distinct_iff_of_isVarying (hwritten : ((locations side).numbers source).Nodup)
    (hvarying : isVarying stage side.storage = true) :
    (locations side).Distinct (.onto table stage source) ↔ (varyingNames stage source).Nodup ∧
      ∀ name ∈ varyingNames stage source, ∀ n ∈ (locations side).numbers source,
        (assign table stage source).2.location? name ≠ some n := by
  have hfound : ∀ {k line name}, source.pieces[k]? = some line → varying? stage line = some name →
      ∃ n, (assign table stage source).2.location? name = some n := fun hline hname =>
    ⟨_, location?_of_mem_fill hline hname (ofLines table source.pieces)⟩
  rw [distinct_iff hwritten]
  -- distinct names and distinct locations, then names whose locations are not written
  refine and_congr ⟨fun hgiven => ?_, fun hnames => ?_⟩ ⟨fun hapart => ?_, fun hapart => ?_⟩
  · refine nodup_filterMap_iff.mpr fun {j k line line' name} hj hname hk hname' => ?_
    obtain ⟨n, hn⟩ := hfound hj hname
    exact hgiven j k n ((gets_iff_of_isVarying hvarying).mpr ⟨line, name, hj, hname, hn⟩)
      ((gets_iff_of_isVarying hvarying).mpr ⟨line', name, hk, hname', hn⟩)
  · intro j k n hj hk
    obtain ⟨line, name, hline, hname, hn⟩ := (gets_iff_of_isVarying hvarying).mp hj
    obtain ⟨line', name', hline', hname', hn'⟩ := (gets_iff_of_isVarying hvarying).mp hk
    obtain rfl := Varyings.location?_injective hn hn'
    exact nodup_filterMap_iff.mp hnames hline hname hline' hname'
  · intro name hmem n hn hlocation
    obtain ⟨line, hline, hname⟩ := List.mem_filterMap.mp hmem
    obtain ⟨k, hk⟩ := List.mem_iff_getElem?.mp hline
    exact hapart k n ((gets_iff_of_isVarying hvarying).mpr ⟨line, name, hk, hname, hlocation⟩) hn
  · intro k n hk hmem
    obtain ⟨line, name, hline, hname, hn⟩ := (gets_iff_of_isVarying hvarying).mp hk
    exact hapart name (List.mem_filterMap.mpr ⟨line, List.mem_of_getElem? hline, hname⟩) n hmem hn

end Numbering

/-- **The locations of a side of a stage are distinct** as far as varyings let them. If those that
are written are, so are all of them, unless it is the side of the varyings: there two names have to
be different, and no name may have a location that is written. What the lines that come out have in
their layouts is what is said of them here, if it fits a word. -/
theorem locations_distinct_iff (table : Varyings) (stage : Stage) (source : Text) {side : Side}
    (h : ((locations side).numbers source).Nodup) :
    (∀ k n, (locations side).Writes (assign table stage source).1 k n ↔
      (locations side).Has (.onto table stage source) k n ∧ n < wordBound) ∧
    ((locations side).Distinct (.onto table stage source) ↔
      (isVarying stage side.storage = true → (varyingNames stage source).Nodup ∧
        ∀ name ∈ varyingNames stage source, ∀ n ∈ (locations side).numbers source,
          (assign table stage source).2.location? name ≠ some n)) := by
  constructor
  · intro k n
    rw [Numbering.writes_filled_iff]
    refine and_congr_right fun _ => ⟨fun hlt => hlt n rfl, ?_⟩
    rintro hlt m rfl
    exact hlt
  · cases hvarying : isVarying stage side.storage with
    | true => simpa using Numbering.distinct_iff_of_isVarying h hvarying
    | false => simpa using Numbering.distinct_of_fixed h hvarying

/-- A vertex stage that writes the location of its first output. -/
def writtenFirst : Text :=
  "layout(location = 0) out vec3 n;\nout vec3 w;".toList

/-- The other output of it gets the same location. -/
theorem locations_not_distinct_writtenFirst :
    ((locations .output).numbers writtenFirst).Nodup ∧
      (varyingNames .vertex writtenFirst).Nodup ∧
      ¬((locations .output).numbers (assign {} .vertex writtenFirst).1).Nodup := by
  decide +kernel

/-- A vertex stage that writes another location than the first. -/
def writtenNext : Text :=
  "layout(location = 1) out vec3 n;\nout vec3 w;".toList

/-- Its outputs have distinct locations. -/
theorem locations_distinct_writtenNext :
    ((locations .output).numbers writtenNext).Nodup ∧
      (locations .output).Distinct (.onto {} .vertex writtenNext) := by
  have hwritten : ((locations .output).numbers writtenNext).Nodup := by decide +kernel
  exact ⟨hwritten, (locations_distinct_iff {} .vertex writtenNext hwritten).2.mpr fun _ => by
    decide +kernel⟩

end ShaderBundle.Headless
