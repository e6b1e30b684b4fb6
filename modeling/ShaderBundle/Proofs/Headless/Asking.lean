import Mathlib.Data.Nat.Nth
import ShaderBundle.Proofs.Headless.Bindings
import ShaderBundle.Proofs.Headless.Locations

/-!
# What a layout depends on

A declaration without a layout asks for a number: for a binding, or for a location at a side of the
stage, where its name may count. Which number it gets depends on what the lines before it ask for,
on the locations that are written, and on the table of varyings; how the lines are spelled counts
for nothing else. This module says which number it is, in one formula for every line of every
source, and derives when two sources get the same layouts on the same lines.

## A formula for the pass

The pass over the lines carries what is known and passes it on, and so its result at a line is the
result of a recursion. `layoutFor` is closed: it takes what is asked for before the line, as a list,
and the locations that are written anywhere in the source. A binding is the number of bindings asked
for before. A location away from the varyings is the number that comes next among those that are not
written (`Nat.nth`), and one of a varying is found in the table with the names that were asked for
before.

## When sources are laid out alike

Two sources get the same layouts if line by line they ask for the same and the same locations are
free, as far as any are asked for. That is `ReadsAlike`, and it is not only sufficient. Since the
layouts have to agree over every stage and every table, what a line asks for can be told from the
layouts it gets: a binding is no location, the stage at which the side is that of the varyings shows
the name, and the free locations show where the table does not matter.

The equivalence is what claims about spelling are reduced to. Whether comments or blanks make a
difference is then a question about what is read off a line, and the pass over the lines does not
occur in it.

## Main definitions

* `Asked`, `asks?`: what a line asks for.
* `layoutFor`: the layout that is given out.
* `Inserts`: a layout is put into a line of a source.
* `InsertsAlike`: two sources get the same layouts on the same lines.
* `ReadsAlike`: their lines ask for the same, and the same locations are free.

## Main results

* `nextFree_eq_nth`: which location is the next free one.
* `inserts_iff`: which layout is put into a line.
* `insertsAlike_iff`: two sources are laid out alike exactly if they read alike.
-/

namespace ShaderBundle.Headless

open Allocation

/-- What a line asks for. -/
inductive Asked where
  | binding
  | location (side : Side) (name : Text)
  deriving DecidableEq, Repr

/-- What a declaration asks for. The name of a uniform does not count. -/
def Declaration.asks (declaration : Declaration) : Asked :=
  match declaration.storage with
  | .uniform => .binding
  | .input => .location .input declaration.name
  | .output => .location .output declaration.name

/-- What a line asks for, if it is a declaration without a layout. -/
def asks? (line : Text) : Option Asked :=
  (Declaration.bare? line).map Declaration.asks

/-- What the `k`-th line of a source asks for. -/
def askedAt (source : Text) (k : Nat) : Option Asked :=
  source.pieces[k]?.bind asks?

/-- What the lines before the `k`-th one ask for. -/
def askedBefore (source : Text) (k : Nat) : List Asked :=
  (source.pieces.take k).filterMap asks?

/-- The name for which a location at a side is asked. -/
def Asked.nameAt? (side : Side) : Asked → Option Text
  | .binding => none
  | .location other name => if other = side then some name else none

/-- The names for which locations at a side are asked. -/
def namesAt (side : Side) (asked : List Asked) : List Text :=
  asked.filterMap (Asked.nameAt? side)

/-- The layout for what a line asks, behind what the lines before it ask for: a binding is the
number of those before it, the location of a varying is that of its name, and any other location is
the first one that is not written and not given out yet. -/
noncomputable def layoutFor (table : Varyings) (stage : Stage) (written : Side → List Nat)
    (earlier : List Asked) : Asked → Text
  | .binding => bindingLayout (earlier.count .binding)
  | .location side name =>
    if isVarying stage side.storage then
      locationLayout ((table.record (namesAt side earlier)).locate name).1
    else locationLayout (Nat.nth (· ∉ written side) (namesAt side earlier).length)

/-- The locations that are written in a source. -/
def writtenAt (source : Text) (side : Side) : List Nat :=
  (locations side).numbers source

variable {table : Varyings} {stage : Stage} {side : Side} {known : Allocation} {ls : List Text}
  {line layout : Text} {declaration : Declaration} {source source' : Text} {k : Nat}

/-! ### Which location is free

The search for a free number goes through the numbers from zero on, and notes what it gives out. So
the next one is the least that is not in use, and after `m` of them it is the `m`-th number that was
not in use at the beginning, counted from zero. -/

/-- The search goes by numbers that are taken. -/
theorem mem_of_lt_nextFreeFrom {taken : List Nat} {fuel start n : Nat} (hlow : start ≤ n)
    (h : n < nextFreeFrom taken fuel start) : n ∈ taken := by
  induction fuel generalizing start with
  | zero => exact absurd h (Nat.not_lt.mpr hlow)
  | succ fuel ih =>
    rw [nextFreeFrom] at h
    split at h
    next hstart =>
      rcases Nat.eq_or_lt_of_le hlow with rfl | hlt
      · exact List.contains_iff_mem.mp hstart
      · exact ih hlt h
    next => exact absurd h (Nat.not_lt.mpr hlow)

/-- What is given out as free is the least number that is. -/
theorem nextFree_eq {taken : List Nat} {n : Nat} (hfree : n ∉ taken) (h : ∀ m < n, m ∈ taken) :
    nextFree taken = n := by
  rcases Nat.lt_trichotomy (nextFree taken) n with hlt | heq | hlt
  · exact absurd (h _ hlt) (nextFree_notMem taken)
  · exact heq
  · exact absurd (mem_of_lt_nextFreeFrom (Nat.zero_le n) hlt) hfree

theorem infinite_notMem (taken : List Nat) : (Set.ofPred (· ∉ taken)).Infinite :=
  (List.finite_toSet taken).infinite_compl

/-- **Which location is the next free one**: behind the first `m` numbers that are not taken it is
the next one of them. -/
theorem nextFree_eq_nth (taken : List Nat) (m : Nat) :
    nextFree (taken ++ (List.range m).map (Nat.nth (· ∉ taken))) = Nat.nth (· ∉ taken) m := by
  classical
  have hinfinite := infinite_notMem taken
  refine nextFree_eq (fun hmem => ?_) fun n hlt => ?_
  · rcases List.mem_append.mp hmem with hmem | hmem
    · exact Nat.nth_mem_of_infinite hinfinite m hmem
    · obtain ⟨j, hj, heq⟩ := List.mem_map.mp hmem
      obtain rfl := Nat.nth_injective hinfinite heq
      exact absurd (List.mem_range.mp hj) (Nat.lt_irrefl j)
  · by_cases hn : n ∈ taken
    · exact List.mem_append_left _ hn
    · -- a number that is not taken is the one that its count says
      have hcount : Nat.nth (· ∉ taken) (Nat.count (· ∉ taken) n) = n := Nat.nth_count hn
      have hbefore : Nat.count (· ∉ taken) n < m := by
        rw [← hcount] at hlt
        exact (Nat.nth_lt_nth hinfinite).mp hlt
      exact List.mem_append_right _ (List.mem_map.mpr ⟨_, List.mem_range.mpr hbefore, hcount⟩)

theorem taken_give (hfixed : isVarying stage side.storage = false) (known : Allocation)
    (declaration : Declaration) : (give stage known declaration).2.taken side =
      known.taken side ++
        if declaration.storage = side.storage then [nextFree (known.taken side)] else [] := by
  unfold give
  split
  next hvarying =>
    have hne : declaration.storage ≠ side.storage := fun heq => by
      rw [heq, hfixed] at hvarying
      cases hvarying
    rw [if_neg hne, List.append_nil]
    rfl
  next =>
    rcases declaration with ⟨_ | _ | _, name⟩ <;> cases side <;>
      simp [Side.storage, Allocation.taken]

/-! ### What is known in front of a line

Each component of what is known is a function of what was asked before. The three lemmas for
bindings, locations and names make the formula out of the recursion. -/

theorem filterMap_take_succ {α β : Type} (f : α → Option β) (l : List α) (k : Nat) :
    (l.take (k + 1)).filterMap f = (l.take k).filterMap f ++ (l[k]?.bind f).toList := by
  rw [List.take_add_one, List.filterMap_append]
  cases l[k]? with
  | none => rfl
  | some a => cases hf : f a <;> simp [hf]

theorem bind_asks? (line : Option Text) :
    line.bind asks? = (line.bind Declaration.bare?).map Declaration.asks := by
  cases line <;> rfl

theorem nameAt?_asks (side : Side) (declaration : Declaration) :
    declaration.asks.nameAt? side =
      if declaration.storage = side.storage then some declaration.name else none := by
  rcases declaration with ⟨_ | _ | _, name⟩ <;> cases side <;> rfl

theorem namesAt_concat (side : Side) (asked : List Asked) (last : Asked) :
    namesAt side (asked ++ [last]) = namesAt side asked ++ (last.nameAt? side).toList := by
  rw [namesAt, List.filterMap_append, namesAt]
  cases h : last.nameAt? side <;> simp [h]

/-- Away from the varyings, what is taken in front of a line is what was taken, and as many numbers
more as were asked for. -/
theorem taken_before (hfixed : isVarying stage side.storage = false) (known : Allocation)
    (ls : List Text) (k : Nat) : (before stage known ls k).taken side = known.taken side ++
      (List.range (namesAt side ((ls.take k).filterMap asks?)).length).map
        (Nat.nth (· ∉ known.taken side)) := by
  induction k with
  | zero => simp [namesAt]
  | succ k ih =>
    rw [before_succ, filterMap_take_succ, bind_asks?]
    cases ls[k]?.bind Declaration.bare? with
    | none => simpa using ih
    | some declaration =>
      simp only [taken_give hfixed, ih, nextFree_eq_nth, Option.map_some, Option.toList_some,
        namesAt_concat, nameAt?_asks]
      split
      · rw [Option.toList_some, List.length_append, List.length_singleton, List.range_succ,
          List.map_append, List.append_assoc]
        rfl
      · simp

/-- The names that are looked up in front of a line are those for which locations are asked at the
side of the varyings. -/
theorem varyings_before (hvarying : isVarying stage side.storage = true) (known : Allocation)
    (ls : List Text) (k : Nat) : (before stage known ls k).varyings =
      known.varyings.record (namesAt side ((ls.take k).filterMap asks?)) := by
  rw [before, varyings_fill, namesAt, List.filterMap_filterMap]
  congr 1
  refine List.filterMap_congr fun line _ => ?_
  rw [varying?, asks?]
  cases Declaration.bare? line with
  | none => rfl
  | some declaration =>
    simp only [Option.map_some, Option.bind_some, nameAt?_asks]
    by_cases hstorage : declaration.storage = side.storage
    · simp only [hstorage, hvarying, if_true]
    · have hfixed : ¬isVarying stage declaration.storage = true := fun h =>
        hstorage (storage_of_isVarying h hvarying)
      rw [if_neg hstorage, if_neg hfixed]

theorem count_binding (ls : List Text) :
    (ls.filterMap asks?).count .binding = ls.countP declaresUniform := by
  induction ls with
  | nil => rfl
  | cons line ls ih =>
    cases hbare : Declaration.bare? line with
    | none =>
      rw [List.filterMap_cons_none (by rw [asks?, hbare]; rfl), ih,
        List.countP_cons_of_neg (by simp [declaresUniform, hbare])]
    | some declaration =>
      rw [List.filterMap_cons_some (by rw [asks?, hbare]; rfl), List.count_cons, ih,
        List.countP_cons, declaresUniform, hbare]
      rcases declaration with ⟨_ | _ | _, name⟩ <;> rfl

/-- The layout of a declaration is the one for what it asks. -/
theorem give_eq_layoutFor (table : Varyings) (stage : Stage) (source : Text) (k : Nat)
    (declaration : Declaration) :
    (give stage (before stage (ofLines table source.pieces) source.pieces k) declaration).1 =
      layoutFor table stage (writtenAt source) (askedBefore source k) declaration.asks := by
  -- a location: of the varyings it is that of the name, and the next free one otherwise
  have hside : ∀ side : Side, declaration.storage = side.storage →
      (give stage (before stage (ofLines table source.pieces) source.pieces k) declaration).1 =
        layoutFor table stage (writtenAt source) (askedBefore source k)
          (.location side declaration.name) := by
    intro side hstorage
    rw [give_of_storage_eq hstorage, nextLocation, layoutFor, askedBefore]
    cases hvarying : isVarying stage side.storage with
    | true =>
      rw [if_pos rfl, if_pos rfl, varyings_before hvarying]
      rfl
    | false =>
      rw [if_neg Bool.false_ne_true, if_neg Bool.false_ne_true, taken_before hvarying,
        taken_ofLines, nextFree_eq_nth]
      rfl
  cases hstorage : declaration.storage with
  -- A binding is the number of bindings that were asked for before.
  | uniform =>
    rw [give_of_uniform hstorage, binding_before, Declaration.asks, hstorage, layoutFor,
      askedBefore, count_binding]
    simp [ofLines]
  | input =>
    rw [hside .input hstorage, Declaration.asks, hstorage]
  | output =>
    rw [hside .output hstorage, Declaration.asks, hstorage]

/-! ### Which layouts are put in -/

/-- A layout is put into the `k`-th line of a source, behind its indentation. -/
def Inserts (table : Varyings) (stage : Stage) (source : Text) (k : Nat) (layout : Text) : Prop :=
  ∃ line, source.pieces[k]? = some line ∧
    (assign table stage source).1.pieces[k]? = some (Allocation.insert layout line)

/-- **Which layout is put into a line.** -/
theorem inserts_iff : Inserts table stage source k layout ↔ ∃ asked,
    askedAt source k = some asked ∧
      layout = layoutFor table stage (writtenAt source) (askedBefore source k) asked := by
  rw [Inserts, pieces_assign, askedAt]
  cases hline : source.pieces[k]? with
  -- A line that stays as it is has no layout put in, since that would make it longer.
  | none => simp
  | some line =>
    simp only [Option.some.injEq, exists_eq_left', Option.bind_some]
    rw [asks?]
    cases hbare : Declaration.bare? line with
    | none =>
      rw [getElem?_fill_of_not_bare? hline hbare]
      refine iff_of_false (fun heq => ?_) (by simp)
      have hlen := congrArg List.length (Option.some.inj heq)
      have hline := congrArg List.length
        (List.takeWhile_append_dropWhile (p := isBlank) (l := line))
      simp only [Allocation.insert, List.length_append, List.length_cons] at hlen hline
      omega
    | some declaration =>
      simp only [getElem?_fill_of_bare? hline hbare, give_eq_layoutFor, Option.map_some,
        Option.some.injEq, exists_eq_left']
      exact ⟨fun h => (insert_injective h).symm, fun h => h ▸ rfl⟩

/-! ### Two sources -/

/-- Two sources get the same layouts on the same lines, at every stage and over every table. -/
def InsertsAlike (source source' : Text) : Prop :=
  ∀ (table : Varyings) (stage : Stage) (k : Nat) (layout : Text),
    Inserts table stage source k layout ↔ Inserts table stage source' k layout

/-- Two sources read alike. -/
structure ReadsAlike (source source' : Text) : Prop where
  /-- Line by line they ask for the same. -/
  asked : ∀ k, askedAt source k = askedAt source' k
  /-- As far as locations are asked for at a side, the same ones are free there. -/
  free : ∀ side, ∀ m < (namesAt side (source.pieces.filterMap asks?)).length,
    Nat.nth (· ∉ writtenAt source side) m = Nat.nth (· ∉ writtenAt source' side) m

theorem askedBefore_eq (h : ∀ k, askedAt source k = askedAt source' k) (k : Nat) :
    askedBefore source k = askedBefore source' k := by
  induction k with
  | zero => rfl
  | succ k ih =>
    have hlast : source.pieces[k]?.bind asks? = source'.pieces[k]?.bind asks? := h k
    rw [askedBefore, askedBefore, filterMap_take_succ, filterMap_take_succ, hlast]
    exact congrArg (· ++ _) ih

/-- A line that asks for a location at a side is among those that do. -/
theorem length_namesAt_lt {name : Text} (h : askedAt source k = some (.location side name)) :
    (namesAt side (askedBefore source k)).length <
      (namesAt side (source.pieces.filterMap asks?)).length := by
  have hsucc : namesAt side ((source.pieces.take (k + 1)).filterMap asks?) =
      namesAt side (askedBefore source k) ++ [name] := by
    rw [filterMap_take_succ, ← askedAt, h, Option.toList_some, namesAt_concat, Asked.nameAt?,
      if_pos rfl]
    rfl
  have hle := (((List.take_sublist (k + 1) source.pieces).filterMap asks?).filterMap
    (Asked.nameAt? side)).length_le
  rw [← namesAt, hsucc, List.length_append, List.length_singleton] at hle
  exact hle

/-- As many locations are asked for at a side as there are lines that do. -/
theorem exists_askedAt {m : Nat} (h : m < (namesAt side (source.pieces.filterMap asks?)).length) :
    ∃ k name, askedAt source k = some (.location side name) ∧
      (namesAt side (askedBefore source k)).length = m := by
  have hcount : ∀ ls : List Text, (namesAt side (ls.filterMap asks?)).length =
      ls.countP fun line => ((asks? line).bind (Asked.nameAt? side)).isSome := fun ls => by
    rw [namesAt, List.filterMap_filterMap, List.length_filterMap_eq_countP]
  rw [hcount] at h
  obtain ⟨k, line, hline, hasks, hm⟩ := exists_countP_take h
  obtain ⟨name, hname⟩ := Option.isSome_iff_exists.mp hasks
  obtain ⟨asked, hasked, hname⟩ := Option.bind_eq_some_iff.mp hname
  refine ⟨k, name, ?_, by rw [askedBefore, hcount, hm]⟩
  rw [askedAt, hline, Option.bind_some, hasked]
  cases asked with
  | binding => cases hname
  | location other found =>
    rw [Asked.nameAt?] at hname
    split at hname
    next hside => rw [hside, Option.some.inj hname]
    next => cases hname

/-- Sources that read alike are laid out alike. -/
theorem ReadsAlike.layoutFor_eq (h : ReadsAlike source source') {asked : Asked}
    (hasked : askedAt source k = some asked) (table : Varyings) (stage : Stage) :
    layoutFor table stage (writtenAt source) (askedBefore source k) asked =
      layoutFor table stage (writtenAt source') (askedBefore source' k) asked := by
  rw [← askedBefore_eq h.asked]
  cases asked with
  | binding => rfl
  | location side name =>
    rw [layoutFor, layoutFor, h.free side _ (length_namesAt_lt hasked)]

/-! ### Telling apart what is asked

For the converse one looks at single lines over well chosen stages and tables. A table in which a
name stands first or second shows by the location that it was looked up. -/

theorem bindingLayout_ne_locationLayout (m n : Nat) : bindingLayout m ≠ locationLayout n := by
  intro h
  rw [bindingLayout_eq, locationLayout_eq, layoutWith_eq_cons, layoutWith_eq_cons] at h
  have hbehind := List.append_cancel_left (List.cons.inj h).2
  have harguments := List.append_cancel_right (List.cons.inj hbehind).2
  have hset : "set".toList = 's' :: "et".toList := by simp
  have hlocation : "location".toList = 'l' :: "ocation".toList := by simp
  rw [equation, equation, hset, hlocation] at harguments
  exact absurd (List.cons.inj harguments).1 (by decide)

/-- The stage at which a side is that of the varyings. -/
def Side.varyingStage : Side → Stage
  | input => .fragment
  | output => .vertex

theorem isVarying_varyingStage (side other : Side) :
    isVarying side.varyingStage other.storage = decide (side = other) := by
  cases side <;> cases other <;> rfl

/-- What the table says of a name is said behind it. -/
theorem fst_locate_record {name : Text} {n : Nat} (h : table.location? name = some n)
    (names : List Text) : ((table.record names).locate name).1 = n := by
  rw [Varyings.locate, Varyings.location?_of_prefix (Varyings.prefix_record table names) h]

theorem location?_head (name : Text) (rest : List Text) :
    Varyings.location? ⟨name :: rest⟩ name = some 0 := by
  simp [Varyings.location?, List.idxOf?, List.findIdx?_cons]

theorem location?_second {name other : Text} (h : other ≠ name) :
    Varyings.location? ⟨[other, name]⟩ name = some 1 := by
  simp [Varyings.location?, List.idxOf?, List.findIdx?_cons, h]

theorem layoutFor_of_isVarying (hvarying : isVarying stage side.storage = true)
    {name : Text} {n : Nat} (h : table.location? name = some n) (written : Side → List Nat)
    (earlier : List Asked) :
    layoutFor table stage written earlier (.location side name) = locationLayout n := by
  rw [layoutFor, if_pos hvarying, fst_locate_record h]

/-- **What is asked can be told from the layouts** that are given out at all stages and over all
tables. -/
theorem eq_of_forall_layoutFor_eq {written written' : Side → List Nat}
    {earlier earlier' : List Asked} {asked asked' : Asked}
    (h : ∀ table stage, layoutFor table stage written earlier asked =
      layoutFor table stage written' earlier' asked') : asked = asked' := by
  have hlocation : ∀ (written : Side → List Nat) (earlier : List Asked) (side : Side) (name : Text),
      ∃ n, layoutFor {} .compute written earlier (.location side name) = locationLayout n := by
    intro written earlier side name
    rw [layoutFor]
    split <;> exact ⟨_, rfl⟩
  cases asked with
  | binding =>
    cases asked' with
    | binding => rfl
    | location side' name' =>
      obtain ⟨n, hn⟩ := hlocation written' earlier' side' name'
      exact absurd ((h {} .compute).trans hn) (bindingLayout_ne_locationLayout _ _)
  | location side name =>
    cases asked' with
    | binding =>
      obtain ⟨n, hn⟩ := hlocation written earlier side name
      exact absurd ((h {} .compute).symm.trans hn) (bindingLayout_ne_locationLayout _ _)
    | location side' name' =>
      have hvarying : isVarying side.varyingStage side.storage = true := by
        rw [isVarying_varyingStage, decide_eq_true rfl]
      obtain rfl : side = side' := by
        by_contra hside
        -- at the other side the location does not depend on the table
        have hfixed : ¬isVarying side.varyingStage side'.storage = true := by
          rw [isVarying_varyingStage, decide_eq_false hside]
          exact Bool.false_ne_true
        have hne : 'x' :: name ≠ name := List.cons_ne_self _ _
        have hfirst := h ⟨[name]⟩ side.varyingStage
        have hsecond := h ⟨['x' :: name, name]⟩ side.varyingStage
        rw [layoutFor_of_isVarying hvarying (location?_head name []), layoutFor,
          if_neg hfixed] at hfirst
        rw [layoutFor_of_isVarying hvarying (location?_second hne), layoutFor,
          if_neg hfixed] at hsecond
        exact absurd (locationLayout_injective (hfirst.trans hsecond.symm)) Nat.zero_ne_one
      have hname : name = name' := by
        by_contra hname
        have hboth := h ⟨[name, name']⟩ side.varyingStage
        rw [layoutFor_of_isVarying hvarying (location?_head name _),
          layoutFor_of_isVarying hvarying (location?_second hname)] at hboth
        exact absurd (locationLayout_injective hboth) Nat.zero_ne_one
      rw [hname]

theorem InsertsAlike.symm (h : InsertsAlike source source') : InsertsAlike source' source :=
  fun table stage k layout => (h table stage k layout).symm

theorem InsertsAlike.layoutFor_eq (h : InsertsAlike source source') {asked : Asked}
    (hasked : askedAt source k = some asked) : ∃ asked', askedAt source' k = some asked' ∧
      ∀ table stage, layoutFor table stage (writtenAt source) (askedBefore source k) asked =
        layoutFor table stage (writtenAt source') (askedBefore source' k) asked' := by
  have hinserts : ∀ table stage, ∃ asked', askedAt source' k = some asked' ∧
      layoutFor table stage (writtenAt source) (askedBefore source k) asked =
        layoutFor table stage (writtenAt source') (askedBefore source' k) asked' :=
    fun table stage => inserts_iff.mp ((h table stage k _).mp
      (inserts_iff.mpr ⟨asked, hasked, rfl⟩))
  obtain ⟨asked', hasked', -⟩ := hinserts {} .compute
  refine ⟨asked', hasked', fun table stage => ?_⟩
  obtain ⟨other, hother, heq⟩ := hinserts table stage
  rwa [Option.some.inj (hasked'.symm.trans hother)]

theorem InsertsAlike.askedAt_of_some (h : InsertsAlike source source') {asked : Asked}
    (hasked : askedAt source k = some asked) : askedAt source' k = some asked := by
  obtain ⟨asked', hasked', heq⟩ := h.layoutFor_eq hasked
  rw [hasked', eq_of_forall_layoutFor_eq heq]

/-- **Two sources are laid out alike exactly if they read alike.** -/
theorem insertsAlike_iff : InsertsAlike source source' ↔ ReadsAlike source source' := by
  constructor
  · intro h
    have hasked : ∀ k, askedAt source k = askedAt source' k := fun k =>
      Option.ext fun asked => ⟨h.askedAt_of_some, h.symm.askedAt_of_some⟩
    refine ⟨hasked, fun side m hm => ?_⟩
    obtain ⟨k, name, hk, rfl⟩ := exists_askedAt hm
    obtain ⟨asked', hasked', heq⟩ := h.layoutFor_eq hk
    obtain rfl := Option.some.inj ((h.askedAt_of_some hk).symm.trans hasked')
    have hfixed : ¬isVarying .compute side.storage = true := by cases side <;> decide
    have hlayout := heq {} .compute
    rw [layoutFor, layoutFor, if_neg hfixed, if_neg hfixed, ← askedBefore_eq hasked] at hlayout
    exact locationLayout_injective hlayout
  · intro h table stage k layout
    rw [inserts_iff, inserts_iff, ← h.asked]
    refine exists_congr fun asked => and_congr_right fun hasked => ?_
    rw [h.layoutFor_eq hasked]

end ShaderBundle.Headless
