import ShaderBundle.Proofs.Text.Lines
import ShaderBundle.Text.Comments

/-!
# A text and its masked copy

Whatever is found in the masked copy of a text is used in the text itself. That is sound because the
copy blanks out some characters and keeps the others: a character of the copy that is not a space
stands for itself in the text, behind the same number of bytes.

## A relation that forgets

`Masked` says just that and forgets which characters were comments. It does not know where a scanner
of comments stood, so it serves a copy made from within any zone, and a piece of a copy that was cut
out anywhere. All that is ever concluded from it is that something without a space, once found in
the copy, is in the text at the corresponding place. For that it does not matter why the blanks are
there.

The other direction is deliberately absent. A word of the text need not be a word of the copy, it
may be in a comment; and a space of the copy says nothing about the text.

## Bytes, not characters

A character of a comment becomes as many spaces as it has bytes, so corresponding places are at the
same distance in bytes and not in characters. The parts in front of a piece that is found are
therefore related by `Masked` again and not by a length. Whoever needs the byte position gets it
from `Masked.size_eq`.

## Main results

* `masked_maskFrom`: the copy is one, from within any zone.
* `Masked.exists_of_cons`, `Masked.exists_of_append`: a character of the copy that is no space, or a
  piece without spaces, is one of the text.
* `Masked.feeds_eq`, `Masked.getLast?_eq_return_iff`: line endings stay where they are.
-/

namespace ShaderBundle

/-- The second text is the first one with some characters blanked out, but no line ending. -/
inductive Masked : Text → Text → Prop where
  | nil : Masked [] []
  | keep (c : Char) {s t : Text} (h : Masked s t) : Masked (c :: s) (c :: t)
  | blank {c : Char} (hfeed : c ≠ '\n') (hreturn : c ≠ '\r') {s t : Text} (h : Masked s t) :
    Masked (c :: s) (List.replicate (width c) ' ' ++ t)

namespace Masked

variable {s t : Text}

theorem refl (s : Text) : Masked s s := by
  induction s with
  | nil => exact nil
  | cons c s ih => exact keep c ih

/-- A character of a comment is kept or blanked out. -/
theorem blankOut (c : Char) (h : Masked s t) : Masked (c :: s) (ShaderBundle.blankOut c ++ t) := by
  unfold ShaderBundle.blankOut
  split
  · exact keep c h
  · next hc =>
    rw [not_or] at hc
    exact blank hc.1 hc.2 h

theorem size_eq (h : Masked s t) : t.size = s.size := by
  induction h with
  | nil => rfl
  | keep c _ ih => rw [Text.size_cons, Text.size_cons, ih]
  | blank _ _ _ ih => rw [Text.size_append, size_replicate_space, Text.size_cons, ih]

/-- A character of the copy that is not a space stands in the text, between parts that correspond.
-/
theorem exists_of_cons {c : Char} (hc : c ≠ ' ') {a b : Text} (h : Masked s (a ++ c :: b)) :
    ∃ a' b', s = a' ++ c :: b' ∧ Masked a' a ∧ Masked b' b := by
  generalize ht : a ++ c :: b = t at h
  induction h generalizing a with
  | nil => simp at ht
  | @keep d s t h ih =>
    cases a with
    | nil =>
      rw [List.nil_append, List.cons.injEq] at ht
      obtain ⟨rfl, rfl⟩ := ht
      exact ⟨[], s, rfl, nil, h⟩
    | cons e a =>
      rw [List.cons_append, List.cons.injEq] at ht
      obtain ⟨rfl, ht⟩ := ht
      obtain ⟨a', b', rfl, ha, hb⟩ := ih ht
      exact ⟨e :: a', b', rfl, keep e ha, hb⟩
  | @blank d hfeed hreturn s t h ih =>
    -- the blanks of `d` end before `c`, because `c` is none of them
    obtain ⟨a₂, ha₂, htail⟩ :
        ∃ a₂, a = List.replicate (width d) ' ' ++ a₂ ∧ a₂ ++ c :: b = t := by
      rcases List.append_eq_append_iff.mp ht with ⟨x, hx, hcb⟩ | ⟨x, hx, htail⟩
      · cases x with
        | nil => exact ⟨[], by simpa using hx.symm, by simpa using hcb⟩
        | cons e x =>
          rw [List.cons_append, List.cons.injEq] at hcb
          have he : e ∈ List.replicate (width d) ' ' := by simp [hx]
          exact absurd (hcb.1.trans (List.eq_of_mem_replicate he)) hc
      · exact ⟨x, hx, htail.symm⟩
    obtain ⟨a', b', rfl, ha, hb⟩ := ih htail
    rw [ha₂]
    exact ⟨d :: a', b', rfl, blank hfeed hreturn ha, hb⟩

theorem eq_nil (h : Masked s []) : s = [] := by
  cases s with
  | nil => rfl
  | cons c s =>
    have hsize := h.size_eq
    have := width_pos c
    rw [Text.size_nil, Text.size_cons] at hsize
    omega

/-- A piece of the copy without spaces stands in the text, between parts that correspond. -/
theorem exists_of_append {w : Text} (hne : w ≠ []) (hw : ' ' ∉ w) {a b : Text}
    (h : Masked s (a ++ w ++ b)) :
    ∃ a' b', s = a' ++ w ++ b' ∧ Masked a' a ∧ Masked b' b := by
  induction w generalizing a s with
  | nil => exact absurd rfl hne
  | cons c w ih =>
    rw [List.mem_cons, not_or] at hw
    rw [List.append_assoc, List.cons_append] at h
    obtain ⟨a', s', rfl, ha, hs⟩ := h.exists_of_cons (Ne.symm hw.1)
    by_cases hnil : w = []
    · subst hnil
      exact ⟨a', s', by simp, ha, hs⟩
    · obtain ⟨x, b', rfl, hx, hb⟩ := ih hnil hw.2 (a := []) (s := s') (by simpa using hs)
      rw [hx.eq_nil]
      exact ⟨a', b', by simp, ha, hb⟩

/-! ### Line endings

Neither a line feed nor a carriage return is ever blanked out, and a space is neither. So a text and
its copy are cut into lines at the same places. -/

theorem feeds_eq (h : Masked s t) : t.feeds = s.feeds := by
  induction h with
  | nil => rfl
  | keep c _ ih =>
    unfold Text.feeds at ih ⊢
    rw [List.count_cons, List.count_cons, ih]
  | blank hfeed _ _ ih =>
    rw [Text.feeds_append, Text.feeds_replicate_space, Nat.zero_add, ih]
    simp [Text.feeds, hfeed]

theorem eq_nil_iff (h : Masked s t) : t = [] ↔ s = [] := by
  constructor
  · rintro rfl
    exact h.eq_nil
  · rintro rfl
    cases h
    rfl

/-- Nothing but a carriage return is copied to a carriage return. -/
theorem getLast?_eq_return_iff (h : Masked s t) :
    t.getLast? = some '\r' ↔ s.getLast? = some '\r' := by
  induction h with
  | nil => rfl
  | @keep c s t h ih =>
    by_cases hs : s = []
    · rw [hs, h.eq_nil_iff.mpr hs]
    · have ht : t ≠ [] := fun ht => hs (h.eq_nil_iff.mp ht)
      rw [List.getLast?_cons_of_ne_nil ht, List.getLast?_cons_of_ne_nil hs, ih]
  | @blank c hfeed hreturn s t h ih =>
    by_cases hs : s = []
    · rw [hs, h.eq_nil_iff.mpr hs, List.append_nil, List.getLast?_singleton, Option.some.injEq]
      refine ⟨fun hlast => ?_, fun heq => absurd heq hreturn⟩
      have := List.eq_of_mem_replicate (List.mem_of_getLast? hlast)
      exact absurd this (by decide)
    · have ht : t ≠ [] := fun ht => hs (h.eq_nil_iff.mp ht)
      rw [List.getLast?_append, List.getLast?_eq_some_getLast ht, Option.some_or,
        ← List.getLast?_eq_some_getLast ht, List.getLast?_cons_of_ne_nil hs, ih]

end Masked

theorem masked_maskFrom (zone : Zone) (s : Text) : Masked s (maskFrom zone s) := by
  have hslash : blankOut '/' = [' '] := by decide
  have hstar : blankOut '*' = [' '] := by decide
  fun_induction maskFrom zone s with
  | case1 => exact .nil
  | case2 rest ih =>
    have := (ih.blankOut '/').blankOut '/'
    rwa [hslash] at this
  | case3 rest ih =>
    have := (ih.blankOut '*').blankOut '/'
    rwa [hslash, hstar] at this
  | case4 c rest _ _ ih => exact .keep c ih
  | case5 c rest ih => exact ih.blankOut c
  | case6 rest ih =>
    have := (ih.blankOut '/').blankOut '*'
    rwa [hslash, hstar] at this
  | case7 c rest _ ih => exact ih.blankOut c

end ShaderBundle
