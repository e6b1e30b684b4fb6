import ShaderBundle.Headless.Layout
import ShaderBundle.Proofs.Text.Lines

/-!
# What the table of varyings changes

Layouts are filled in line by line, and only the layout of a varying is read off the table that the
backend keeps. A source without a varying to fill in comes out the same over every table and leaves
the table as it is. A source with one does not: over the empty table its first varying gets location
zero, over a table with another name it gets location one.

## Two tables are enough

That the table matters has to be shown by two tables over which the text that comes out differs. The
empty one is that of a fresh backend. The other has a single name, which may be any but that of the
first varying; later modules need to know that such a table arises behind the build of some file,
and a file with one varying of a given name is easily made. Nothing about tables with more names is
needed.

## Why the texts differ

The lines up to the first varying come out alike over both tables, and the line of the first varying
does not, since two layouts that differ make two lines that differ. Lines behind it may differ as
well, but a difference on one line is not undone by another: layouts stay on their lines, so the
lines that come out are the lines that were filled in (`pieces_assign`).

## Main definitions

* `declaresVarying`, `hasVarying`: a line and a source declare a varying without a layout.

## Main results

* `assign_of_not_hasVarying`: without one the table does not matter.
* `exists_assign_ne`: with one it does.
-/

namespace ShaderBundle.Headless

open Allocation

/-- Whether a line declares a varying of the stage without a layout. -/
def declaresVarying (stage : Stage) (line : Text) : Bool :=
  match Declaration.bare? line with
  | some declaration => isVarying stage declaration.storage
  | none => false

/-- Whether a source does, once its version is raised. -/
def hasVarying (stage : Stage) (source : Text) : Bool :=
  (liftVersion source).pieces.any (declaresVarying stage)

variable {stage : Stage} {known : Allocation}

/-! ### Filling in, line by line

The pass over the lines carries what is known by then: the next binding, the locations in use at
both sides, and the table. A declaration without a layout uses and adds to it, any other line passes
it on. -/

theorem fill_cons_of_bare? {line : Text} {declaration : Declaration}
    (h : Declaration.bare? line = some declaration) (known : Allocation) (ls : List Text) :
    fill stage known (line :: ls) =
      (Allocation.insert (give stage known declaration).1 line ::
          (fill stage (give stage known declaration).2 ls).1,
        (fill stage (give stage known declaration).2 ls).2) := by
  rw [fill, h]

theorem fill_cons_of_bare?_eq_none {line : Text} (h : Declaration.bare? line = none)
    (known : Allocation) (ls : List Text) :
    fill stage known (line :: ls) = (line :: (fill stage known ls).1, (fill stage known ls).2) := by
  rw [fill, h]

theorem assign_eq (table : Varyings) (stage : Stage) (source : Text) :
    assign table stage source =
      (Text.unlines (fill stage (ofLines table source.pieces) source.pieces).1,
        (fill stage (ofLines table source.pieces) source.pieces).2.varyings) :=
  rfl

/-! ### Sources without varyings -/

/-- The layout of anything but a varying does not depend on the table. -/
theorem give_of_not_varying {declaration : Declaration}
    (h : isVarying stage declaration.storage = false) (known : Allocation) (table : Varyings) :
    give stage { known with varyings := table } declaration =
      ((give stage known declaration).1,
        { (give stage known declaration).2 with varyings := table }) := by
  have hneg : ¬isVarying stage declaration.storage = true := by rw [h]; exact Bool.false_ne_true
  unfold give
  rw [if_neg hneg, if_neg hneg]
  cases declaration.storage <;> rfl

theorem fill_of_not_varying {ls : List Text} (h : ∀ line ∈ ls, declaresVarying stage line = false)
    (known : Allocation) (table : Varyings) :
    fill stage { known with varyings := table } ls =
      ((fill stage known ls).1, { (fill stage known ls).2 with varyings := table }) := by
  induction ls generalizing known with
  | nil => rfl
  | cons line ls ih =>
    have hline := h line List.mem_cons_self
    have htail := ih fun l hl => h l (List.mem_cons_of_mem line hl)
    cases hbare : Declaration.bare? line with
    | none =>
      rw [fill_cons_of_bare?_eq_none hbare, fill_cons_of_bare?_eq_none hbare, htail known]
    | some declaration =>
      have hfixed : isVarying stage declaration.storage = false := by
        simpa [declaresVarying, hbare] using hline
      rw [fill_cons_of_bare? hbare, fill_cons_of_bare? hbare,
        give_of_not_varying hfixed known table, htail (give stage known declaration).2]

/-- **A source without varyings comes out the same over every table, and leaves the table.** -/
theorem assign_of_not_hasVarying {source : Text} (h : hasVarying stage source = false)
    (table table' : Varyings) :
    (assign table stage (liftVersion source)).1 = (assign table' stage (liftVersion source)).1 ∧
      (assign table stage (liftVersion source)).2 = table := by
  have hlines : ∀ line ∈ (liftVersion source).pieces, declaresVarying stage line = false := by
    intro line hline
    rw [hasVarying, List.any_eq_false] at h
    simpa using h line hline
  have hfill := fill_of_not_varying hlines (ofLines {} (liftVersion source).pieces)
  have hof : ∀ table : Varyings, ofLines table (liftVersion source).pieces =
      { ofLines {} (liftVersion source).pieces with varyings := table } := fun _ => rfl
  rw [assign_eq, assign_eq, hof table, hof table', hfill table, hfill table']
  exact ⟨rfl, rfl⟩

/-! ### Sources with varyings

The induction is on the lines, for whatever is known in front of them apart from the table. The name
of the first varying is found on the way, so it is asserted to exist and not computed beforehand. -/

theorem locationLayout_zero_ne_one : locationLayout 0 ≠ locationLayout 1 := by
  decide +kernel

theorem insert_injective {layout layout' line : Text}
    (h : Allocation.insert layout line = Allocation.insert layout' line) : layout = layout' := by
  simpa [Allocation.insert] using h

/-- A varying gets location zero from the empty table, and location one from a table with another
name. -/
theorem give_varying {declaration : Declaration} (h : isVarying stage declaration.storage = true)
    (known : Allocation) {name : Text} (hname : name ≠ declaration.name) :
    (give stage { known with varyings := {} } declaration).1 = locationLayout 0 ∧
      (give stage { known with varyings := ⟨[name]⟩ } declaration).1 = locationLayout 1 := by
  have hbeq : (name == declaration.name) = false := by simpa using hname
  constructor
  · simp [give, h, Varyings.locate, Varyings.location?, List.idxOf?]
  · simp [give, h, Varyings.locate, Varyings.location?, List.idxOf?, List.findIdx?_cons, hbeq]

/-- The first varying is laid out differently over two tables, one of which is empty and the other
has another name. -/
theorem exists_fill_ne {ls : List Text} (h : ls.any (declaresVarying stage) = true) :
    ∃ first : Text, ∀ (known : Allocation) (name : Text), name ≠ first →
      (fill stage { known with varyings := {} } ls).1 ≠
        (fill stage { known with varyings := ⟨[name]⟩ } ls).1 := by
  induction ls with
  | nil => simp at h
  | cons line ls ih =>
    cases hbare : Declaration.bare? line with
    -- The line stays, and a varying comes later.
    | none =>
      have htail : ls.any (declaresVarying stage) = true := by
        simpa [declaresVarying, hbare] using h
      obtain ⟨first, hfirst⟩ := ih htail
      refine ⟨first, fun known name hname heq => hfirst known name hname ?_⟩
      rw [fill_cons_of_bare?_eq_none hbare, fill_cons_of_bare?_eq_none hbare] at heq
      exact (List.cons.inj heq).2
    | some declaration =>
      cases hvarying : isVarying stage declaration.storage with
      -- This is the first varying. Its layouts over the two tables differ.
      | true =>
        refine ⟨declaration.name, fun known name hname heq => ?_⟩
        obtain ⟨hzero, hone⟩ := give_varying hvarying known hname
        rw [fill_cons_of_bare? hbare, fill_cons_of_bare? hbare, hzero, hone] at heq
        exact locationLayout_zero_ne_one (insert_injective (List.cons.inj heq).1)
      -- Something else gets a layout, the same over both tables.
      | false =>
        have htail : ls.any (declaresVarying stage) = true := by
          simpa [declaresVarying, hbare, hvarying] using h
        obtain ⟨first, hfirst⟩ := ih htail
        refine ⟨first, fun known name hname heq => ?_⟩
        refine hfirst (give stage known declaration).2 name hname ?_
        rw [fill_cons_of_bare? hbare, fill_cons_of_bare? hbare,
          give_of_not_varying hvarying known {}, give_of_not_varying hvarying known ⟨[name]⟩] at heq
        exact (List.cons.inj heq).2

theorem feed_notMem_decimal (n : Nat) : '\n' ∉ decimal n := by
  intro h
  have := Nat.isDigit_of_mem_toDigits (by decide) (by decide) h
  exact absurd this (by decide)

theorem feed_notMem_layout {word : Text} (h : '\n' ∉ word) (n : Nat) :
    '\n' ∉ word ++ decimal n ++ [')'] := by
  rw [List.mem_append, List.mem_append, not_or, not_or]
  exact ⟨⟨h, feed_notMem_decimal n⟩, by decide⟩

/-- A layout stays on its line. -/
theorem feed_notMem_give (stage : Stage) (known : Allocation) (declaration : Declaration) :
    '\n' ∉ (give stage known declaration).1 := by
  have hlocation : ∀ n, '\n' ∉ locationLayout n := feed_notMem_layout (by decide +kernel)
  have hbinding : ∀ n, '\n' ∉ bindingLayout n := feed_notMem_layout (by decide +kernel)
  unfold give
  split
  · exact hlocation _
  · split
    · exact hbinding _
    · exact hlocation _
    · exact hlocation _

theorem feed_notMem_insert {layout line : Text} (hlayout : '\n' ∉ layout) (hline : '\n' ∉ line) :
    '\n' ∉ Allocation.insert layout line := by
  have hmem : ∀ c, c ∈ Allocation.insert layout line → c ∈ line ∨ c ∈ layout ∨ c = ' ' := by
    intro c hc
    rw [Allocation.insert, List.mem_append, List.mem_append, List.mem_cons] at hc
    rcases hc with (hc | hc) | rfl | hc
    · exact Or.inl ((List.takeWhile_subset _) hc)
    · exact Or.inr (Or.inl hc)
    · exact Or.inr (Or.inr rfl)
    · exact Or.inl ((List.dropWhile_subset _) hc)
  intro h
  rcases hmem '\n' h with h | h | h
  · exact hline h
  · exact hlayout h
  · exact absurd h (by decide)

theorem feed_notMem_fill {ls : List Text} (h : ∀ l ∈ ls, '\n' ∉ l) (known : Allocation) :
    ∀ m ∈ (fill stage known ls).1, '\n' ∉ m := by
  induction ls generalizing known with
  | nil => simp [fill]
  | cons line ls ih =>
    have hline := h line List.mem_cons_self
    have htail := ih fun l hl => h l (List.mem_cons_of_mem line hl)
    intro m hm
    cases hbare : Declaration.bare? line with
    | none =>
      rw [fill_cons_of_bare?_eq_none hbare] at hm
      rcases List.mem_cons.mp hm with rfl | hm
      · exact hline
      · exact htail known m hm
    | some declaration =>
      rw [fill_cons_of_bare? hbare] at hm
      rcases List.mem_cons.mp hm with rfl | hm
      · exact feed_notMem_insert (feed_notMem_give stage known declaration) hline
      · exact htail _ m hm

theorem length_fill (known : Allocation) (ls : List Text) :
    (fill stage known ls).1.length = ls.length := by
  induction ls generalizing known with
  | nil => rfl
  | cons line ls ih =>
    cases hbare : Declaration.bare? line with
    | none => rw [fill_cons_of_bare?_eq_none hbare, List.length_cons, List.length_cons, ih]
    | some declaration => rw [fill_cons_of_bare? hbare, List.length_cons, List.length_cons, ih]

/-- The lines of the text that comes out are those that were filled in. -/
theorem pieces_assign (table : Varyings) (stage : Stage) (source : Text) :
    Text.pieces (assign table stage source).1 =
      (fill stage (ofLines table source.pieces) source.pieces).1 := by
  rw [assign_eq]
  refine Text.pieces_unlines ?_ (feed_notMem_fill (fun l hl => Text.feed_notMem_of_mem_pieces hl) _)
  rw [← List.length_pos_iff, length_fill, List.length_pos_iff]
  exact Text.pieces_ne_nil _

/-- **A source with a varying does not come out the same over every table.** -/
theorem exists_assign_ne {source : Text} (h : hasVarying stage source = true) :
    ∃ first : Text, ∀ name, name ≠ first →
      (assign {} stage (liftVersion source)).1 ≠
        (assign ⟨[name]⟩ stage (liftVersion source)).1 := by
  obtain ⟨first, hfirst⟩ := exists_fill_ne h
  refine ⟨first, fun name hname heq => ?_⟩
  have hlines := congrArg Text.pieces heq
  rw [pieces_assign, pieces_assign] at hlines
  exact hfirst (ofLines {} (liftVersion source).pieces) name hname hlines

end ShaderBundle.Headless
