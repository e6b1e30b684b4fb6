import ShaderBundle.Proofs.Headless.Numbering

/-!
# When bindings are distinct

Every uniform of a stage that has no layout gets set zero and the next binding, counted from zero
over the declarations without one. What bindings are written in the source is not looked at. So the
bindings come out distinct exactly if none of those that are written in set zero is less than the
number of declarations without a layout.

Bindings that are written are read off a line here just as locations are. A declaration that names
no set is in set zero, as it is for the front end.

## Counting

The counter of bindings has no memory but itself. The binding that a uniform gets is the number of
uniforms without a layout in front of it, and from this the whole set of bindings that are given out
is known: the numbers below their count, each once. Nothing about the lines in between matters, nor
about the stage or the table. That makes the exact condition a comparison with one number.

A block of uniforms is declared by its head, which may stand on a line with nothing else. It counts
like a uniform.

## Pairs of numbers

A binding is a number within a set, and two bindings differ if their sets do. What is given out is
always in set zero. So the numbers of this kind are pairs, and a written binding in another set can
be anything.

## Main definitions

* `explicitBinding?` reads the set and the binding of a uniform.
* `bindings` are the bindings of a stage.
* `declaresUniform`: a line declares a uniform without a layout, or begins a block of them.

## Main results

* `gets_bindings_iff`: the bindings that are given out are counted from zero.
* `bindings_distinct_iff`: when the bindings of a stage are distinct.
* `bindings_not_distinct_boundBlock`: a stage whose bindings are not.
-/

namespace ShaderBundle.Headless

open Allocation

variable {stage : Stage} {known : Allocation} {declaration : Declaration} {line : Text}

/-! ### Reading bindings

The reader of the library finds locations only, since nothing in it looks at a written binding. For
a statement about what comes out one has to say what a written binding is, which is done with the
same cutting of a line. -/

/-- The set and the binding in the layout of a uniform, or of the head of a block of them. -/
def explicitBinding? (line : Text) : Option (Nat × Nat) :=
  match layoutOf? line with
  | some (arguments, .uniform) =>
    (arguments.findSome? (numberArgument? "binding".toList)).map fun binding =>
      ((arguments.findSome? (numberArgument? "set".toList)).getD 0, binding)
  | _ => none

theorem explicitBinding?_bindingLayout (h : Declaration.bare? line = some declaration)
    (hstorage : declaration.storage = .uniform) (n : Nat) :
    explicitBinding? (Allocation.insert (bindingLayout n) line) =
      if n < wordBound then some (0, n) else none := by
  have hset : numberArgument? "binding".toList (equation "set".toList 0) = none := by
    decide +kernel
  have hzero : numberArgument? "set".toList (equation "set".toList 0) = some 0 := by
    decide +kernel
  have hbinding : numberArgument? "binding".toList ([' '] ++ equation "binding".toList n) =
      if n < wordBound then some n else none := by
    rw [numberArgument?_equation (Text.forall_mem (by decide)) isKey_binding, if_pos rfl]
  rw [explicitBinding?, layoutOf?_bindingLayout h, hstorage]
  by_cases hlt : n < wordBound
  · simp only [List.findSome?_cons, hset, hzero, hbinding, hlt, if_true, Option.map_some,
      Option.getD_some]
  · simp only [List.findSome?_cons, hset, hbinding, hlt, if_false, List.findSome?_nil,
      Option.map_none]

theorem explicitBinding?_give_of_ne (h : Declaration.bare? line = some declaration)
    (hstorage : declaration.storage ≠ .uniform) (stage : Stage) (known : Allocation) :
    explicitBinding? (Allocation.insert (give stage known declaration).1 line) = none := by
  rcases give_cases stage known declaration with ⟨huniform, -⟩ | ⟨-, n, hgive⟩
  · exact absurd huniform hstorage
  · rw [hgive, explicitBinding?, layoutOf?_locationLayout h]
    split
    next heq => exact absurd (Prod.mk.inj (Option.some.inj heq)).2 hstorage
    next => rfl

theorem explicitBinding?_of_bare? (h : Declaration.bare? line = some declaration) :
    explicitBinding? line = none := by
  rw [explicitBinding?, layoutOf?_of_bare? h]

theorem lt_wordBound_of_explicitBinding? {set n : Nat} (h : explicitBinding? line = some (set, n)) :
    n < wordBound := by
  rw [explicitBinding?] at h
  split at h
  next arguments _ =>
    obtain ⟨m, hm, heq⟩ := Option.map_eq_some_iff.mp h
    obtain ⟨argument, -, hargument⟩ := List.exists_of_findSome?_eq_some hm
    exact (Prod.mk.inj heq).2 ▸ lt_wordBound_of_numberArgument? hargument
  next => cases h

theorem bindingLayout_injective : Function.Injective bindingLayout := fun _ _ h =>
  decimal_injective (List.append_cancel_left (List.append_cancel_right h))

theorem give_of_uniform (h : declaration.storage = .uniform) :
    give stage known declaration =
      (bindingLayout known.binding, { known with binding := known.binding + 1 }) := by
  rw [give, h]
  rfl

/-- The bindings of a stage with their sets, as numbers that declarations have. -/
def bindings : Numbering (Nat × Nat) where
  storage := .uniform
  read? := explicitBinding?
  layout := bindingLayout
  place n := (0, n)
  next _ known _ := known.binding
  place_injective _ _ h := (Prod.mk.inj h).2
  layout_injective := bindingLayout_injective
  give_eq h := by rw [give_of_uniform h]
  lt_of_read? := lt_wordBound_of_explicitBinding?
  read?_of_bare? := explicitBinding?_of_bare?
  read?_insert := explicitBinding?_bindingLayout
  read?_insert_of_ne := explicitBinding?_give_of_ne

/-! ### Counting

Facts about counting the lines of a list that satisfy a condition: each count below the total is
reached at such a line, and later lines have greater counts. -/

/-- Whether a line declares a uniform without a layout, or begins a block without one. -/
def declaresUniform (line : Text) : Bool :=
  match Declaration.bare? line with
  | some declaration => declaration.storage = .uniform
  | none => false

theorem declaresUniform_iff : declaresUniform line = true ↔
    ∃ declaration, Declaration.bare? line = some declaration ∧ declaration.storage = .uniform := by
  rw [declaresUniform]
  cases Declaration.bare? line <;> simp

/-- Nothing but a uniform is counted. -/
theorem binding_give_of_ne (h : declaration.storage ≠ .uniform) :
    (give stage known declaration).2.binding = known.binding := by
  unfold give
  split
  · rfl
  · split
    next huniform => exact absurd huniform h
    · rfl
    · rfl

/-- The next binding is the number of uniforms so far. -/
theorem binding_fill (known : Allocation) (ls : List Text) :
    (fill stage known ls).2.binding = known.binding + ls.countP declaresUniform := by
  induction ls generalizing known with
  | nil => rfl
  | cons line ls ih =>
    rw [List.countP_cons]
    cases hbare : Declaration.bare? line with
    | none => simp [fill_cons_of_bare?_eq_none hbare, declaresUniform, hbare, ih]
    | some declaration =>
      rw [fill_cons_of_bare? hbare, ih]
      by_cases huniform : declaration.storage = .uniform
      · simp [declaresUniform, hbare, huniform, give_of_uniform huniform]
        omega
      · simp [declaresUniform, hbare, huniform, binding_give_of_ne huniform]

theorem binding_before (known : Allocation) (ls : List Text) (k : Nat) :
    (before stage known ls k).binding = known.binding + (ls.take k).countP declaresUniform :=
  binding_fill known (ls.take k)

/-- Every count below the number of those that are counted is that of one of them. -/
theorem exists_countP_take {α : Type} {p : α → Bool} {l : List α} {n : Nat} (h : n < l.countP p) :
    ∃ (k : Nat) (a : α), l[k]? = some a ∧ p a = true ∧ (l.take k).countP p = n := by
  induction l generalizing n with
  | nil => simp at h
  | cons b l ih =>
    by_cases hb : p b = true
    · cases n with
      | zero => exact ⟨0, b, rfl, hb, rfl⟩
      | succ n =>
        rw [List.countP_cons_of_pos hb] at h
        obtain ⟨k, a, hk, ha, hn⟩ := ih (Nat.lt_of_succ_lt_succ h)
        exact ⟨k + 1, a, hk, ha, by rw [List.take_succ_cons, List.countP_cons_of_pos hb, hn]⟩
    · rw [List.countP_cons_of_neg hb] at h
      obtain ⟨k, a, hk, ha, hn⟩ := ih h
      exact ⟨k + 1, a, hk, ha, by rw [List.take_succ_cons, List.countP_cons_of_neg hb, hn]⟩

/-- What is counted later has a greater count. -/
theorem countP_take_lt {α : Type} {p : α → Bool} {l : List α} {j k : Nat} {a : α}
    (ha : l[j]? = some a) (hp : p a = true) (hjk : j < k) :
    (l.take j).countP p < (l.take k).countP p := by
  have hone : (l.take (j + 1)).countP p = (l.take j).countP p + 1 := by
    rw [List.take_add_one, ha, Option.toList_some, List.countP_append, List.countP_singleton,
      if_pos hp]
  have hmono : (l.take (j + 1)).countP p ≤ (l.take k).countP p :=
    (List.take_prefix_take_left hjk).sublist.countP_le
  omega

/-- **The bindings that are given out are counted from zero.** -/
theorem gets_bindings_iff {table : Varyings} {source : Text} {k n : Nat} :
    bindings.Gets (.onto table stage source) k n ↔ ∃ line, source.pieces[k]? = some line ∧
      declaresUniform line = true ∧ n = (source.pieces.take k).countP declaresUniform := by
  rw [Numbering.gets_iff]
  have hnext : ∀ declaration, bindings.next stage
      (before stage (ofLines table source.pieces) source.pieces k) declaration =
        (source.pieces.take k).countP declaresUniform := fun _ =>
    (binding_before _ _ _).trans (Nat.zero_add _)
  simp only [hnext, declaresUniform_iff]
  constructor
  · rintro ⟨line, declaration, hline, hbare, hstorage, hn⟩
    exact ⟨line, hline, ⟨declaration, hbare, hstorage⟩, hn⟩
  · rintro ⟨line, hline, ⟨declaration, hbare, hstorage⟩, hn⟩
    exact ⟨line, declaration, hline, hbare, hstorage, hn⟩

/-- **The bindings of a stage are distinct** exactly if those that are written are, and those of
them in set zero keep clear of what is given out. What the lines that come out have in their layouts
is what is said of them here, if it fits a word. -/
theorem bindings_distinct_iff (table : Varyings) (stage : Stage) (source : Text)
    (h : (bindings.numbers source).Nodup) :
    (∀ k set n, bindings.Writes (assign table stage source).1 k (set, n) ↔
      bindings.Has (.onto table stage source) k (set, n) ∧ n < wordBound) ∧
    (bindings.Distinct (.onto table stage source) ↔
      ∀ n, (0, n) ∈ bindings.numbers source → source.pieces.countP declaresUniform ≤ n) := by
  constructor
  · intro k set n
    constructor
    · intro hwrites
      have ⟨_, _, hread⟩ := hwrites
      exact ⟨(Numbering.writes_filled_iff.mp hwrites).1, lt_wordBound_of_explicitBinding? hread⟩
    · rintro ⟨hhas, hlt⟩
      refine Numbering.writes_filled_iff.mpr ⟨hhas, fun m hm => ?_⟩
      exact (Prod.mk.inj hm).2 ▸ hlt
  · rw [Numbering.distinct_iff h]
    constructor
    · rintro ⟨-, hapart⟩ n hmem
      by_contra hlt
      -- a number below the count is the count at one of the uniforms
      obtain ⟨k, line, hline, huniform, hn⟩ := exists_countP_take (Nat.lt_of_not_le hlt)
      exact hapart k n (gets_bindings_iff.mpr ⟨line, hline, huniform, hn.symm⟩) hmem
    · intro hclear
      refine ⟨fun j k n hj hk => ?_, fun k n hk hmem => ?_⟩
      · obtain ⟨line, hline, huniform, hn⟩ := gets_bindings_iff.mp hj
        obtain ⟨line', hline', huniform', hn'⟩ := gets_bindings_iff.mp hk
        rcases Nat.lt_trichotomy j k with hlt | heq | hlt
        · have := countP_take_lt hline huniform hlt
          omega
        · exact heq
        · have := countP_take_lt hline' huniform' hlt
          omega
      · obtain ⟨line, hline, huniform, hn⟩ := gets_bindings_iff.mp hk
        have hclear := hclear n hmem
        have hlt := countP_take_lt hline huniform (List.getElem?_eq_some_iff.mp hline).1
        rw [List.take_length] at hlt
        omega

/-- A stage with a block that has its binding written, and a uniform that has not. -/
def boundBlock : Text :=
  "layout(set = 0, binding = 0) uniform P \x7b\n    vec4 tint;\n\x7d;\nuniform mat4 m;".toList

/-- The uniform gets the binding of the block. -/
theorem bindings_not_distinct_boundBlock :
    (bindings.numbers boundBlock).Nodup ∧
      ¬(bindings.numbers (assign {} .vertex boundBlock).1).Nodup := by
  decide +kernel

/-- The same with the next binding written. -/
def boundNext : Text :=
  "layout(set = 0, binding = 1) uniform P \x7b\n    vec4 tint;\n\x7d;\nuniform mat4 m;".toList

/-- The uniform and the block have distinct bindings. -/
theorem bindings_distinct_boundNext :
    (bindings.numbers boundNext).Nodup ∧ bindings.Distinct (.onto {} .vertex boundNext) := by
  have hwritten : (bindings.numbers boundNext).Nodup := by decide +kernel
  have hnumbers : bindings.numbers boundNext = [(0, 1)] := by decide +kernel
  refine ⟨hwritten, (bindings_distinct_iff {} .vertex boundNext hwritten).2.mpr fun n hn => ?_⟩
  rw [hnumbers, List.mem_singleton, Prod.mk.injEq] at hn
  rw [hn.2]
  decide +kernel

end ShaderBundle.Headless
