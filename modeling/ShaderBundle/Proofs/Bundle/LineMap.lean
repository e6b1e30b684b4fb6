import Mathlib.Data.Set.Function
import Mathlib.Order.Interval.Set.Basic
import ShaderBundle.Bundle.Block

/-!
# The lines of a block's source

The source of a block has a line for every line of the header and for every line of the body. Where
a line of the source comes from is a matter of two pieces: header lines keep their number, and lines
behind the header are moved to the body.

## Why there are two developments

As numbers the two pieces fit together without any condition but one, that the body comes behind the
header: then the map keeps the order and reaches each line of the header and of the body once. That
is `Block.strictMonoOn_fileLine` and `Block.bijOn_fileLine`, and it is plain arithmetic.

In words it is not without a condition. The way to a line behind the header leads over a sum that is
by one too large, so a line is found exactly if its successor is a word
(`Block.fileLine?_eq_some_iff`). For the lines that a source really has this fails in a single case:
the file has as many lines as there are words, and the line is its last. So
`Block.bijOn_fileLine?_iff` is an equivalence and not a statement under a hypothesis. A log, on the
other hand, can carry any word; what becomes of those that the source does not have is another
question, and `Proofs/Diagnostic/Overflow` is about it.

## Main results

* `Block.fileLine?_eq`: where the steps lead, and when they lead nowhere.
* `Block.lt_of_fileLine?`: lines are mapped in order.
* `Block.bijOn_fileLine?_iff`: when every line of the source has a line of the file.
-/

namespace ShaderBundle.Block

variable {block : Block} {line : Nat}

/-- The lines that the source of a block has. -/
def sourceLines (block : Block) : Set Nat :=
  Set.Icc 1 (block.headerLines + block.body.count)

/-- The lines of the file that these come from: those of the header and those of the body. -/
def ownLines (block : Block) : Set Nat :=
  Set.Icc 1 block.headerLines ∪ Set.Icc block.body.start block.body.stop

/-! ### The map of numbers -/

/-- The lines of the source, in order, come from lines of the file, in order. -/
theorem strictMonoOn_fileLine (h : block.headerLines < block.body.start) :
    StrictMonoOn block.fileLine block.sourceLines := by
  intro a ha b hb hab
  unfold fileLine
  split <;> split <;> omega

/-- The lines of the source come from the header and the body, and all of those are reached. -/
theorem bijOn_fileLine (h : block.headerLines < block.body.start) :
    Set.BijOn block.fileLine block.sourceLines block.ownLines := by
  have hbody := block.body.start_le_stop
  have hcount : block.body.count = block.body.stop - block.body.start + 1 := rfl
  unfold sourceLines ownLines
  refine ⟨fun line hline => ?_, (strictMonoOn_fileLine h).injOn, fun line hline => ?_⟩
  · rw [Set.mem_Icc] at hline
    rw [Set.mem_union, Set.mem_Icc, Set.mem_Icc, fileLine]
    split <;> omega
  · rw [Set.mem_union, Set.mem_Icc, Set.mem_Icc] at hline
    rcases hline with hline | hline
    · refine ⟨line, ?_, ?_⟩
      · rw [Set.mem_Icc]
        omega
      · rw [fileLine, if_pos hline.2]
    · refine ⟨line - block.body.start + 1 + block.headerLines, ?_, ?_⟩
      · rw [Set.mem_Icc]
        omega
      · rw [fileLine, if_neg (by omega)]
        omega

/-! ### The way to a line, in words -/

theorem overflows_iff : block.overflows line = true ↔
    block.headerLines < line ∧ wordBound ≤ line - block.headerLines + block.body.start := by
  simp [overflows]

/-- No sum is made for a line of the header. -/
theorem not_overflows_of_le (h : line ≤ block.headerLines) : ¬block.overflows line = true := by
  rw [overflows_iff]
  omega

/-- **Only the sum can be too large**, and if it is not, the steps lead to the line of the file. -/
theorem fileLine?_eq (block : Block) (line : Nat) :
    block.fileLine? line = if block.overflows line then none else some (block.fileLine line) := by
  by_cases hheader : line ≤ block.headerLines
  · rw [fileLine?, if_pos hheader, if_neg (not_overflows_of_le hheader), fileLine, if_pos hheader]
  · have hbeyond : Word.sub? line block.headerLines = some (line - block.headerLines) :=
      Word.sub?_of_le (by omega)
    rw [fileLine?, if_neg hheader, hbeyond, Option.bind_eq_bind, Option.bind_some]
    by_cases hsum : line - block.headerLines + block.body.start < wordBound
    · have hfits : ¬block.overflows line = true := by
        rw [overflows_iff]
        omega
      rw [Word.add?_of_lt hsum, if_neg hfits, fileLine, if_neg hheader]
      exact Word.sub?_of_le (by omega)
    · have hlarge : block.overflows line = true := by
        rw [overflows_iff]
        omega
      rw [Word.add?_of_le (Nat.not_lt.mp hsum), if_pos hlarge]
      rfl

theorem fileLine?_eq_none_iff : block.fileLine? line = none ↔ block.overflows line = true := by
  rw [fileLine?_eq]
  split <;> simp_all

/-- What is found is the line of the file. -/
theorem eq_fileLine_of_fileLine? {found : Nat} (h : block.fileLine? line = some found) :
    found = block.fileLine line := by
  rw [fileLine?_eq] at h
  split at h
  · cases h
  · exact (Option.some.inj h).symm

/-- A line of the file that is found fits a word. -/
theorem lt_wordBound_of_fileLine? {found : Nat} (hline : line < wordBound)
    (h : block.fileLine? line = some found) : found = block.fileLine line ∧ found < wordBound := by
  obtain rfl := eq_fileLine_of_fileLine? h
  have hfits : ¬block.overflows line = true := fun hlarge => by
    rw [fileLine?_eq_none_iff.mpr hlarge] at h
    cases h
  rw [overflows_iff] at hfits
  refine ⟨rfl, ?_⟩
  unfold fileLine
  split <;> omega

/-- **A line is found if it is one of the header's, or if its successor in the file is a word.** -/
theorem fileLine?_eq_some_iff :
    block.fileLine? line = some (block.fileLine line) ↔
      line ≤ block.headerLines ∨ block.fileLine line + 1 < wordBound := by
  rw [fileLine?_eq]
  by_cases hheader : line ≤ block.headerLines
  · simp [not_overflows_of_le hheader, hheader]
  · have hsum : block.fileLine line + 1 = line - block.headerLines + block.body.start := by
      rw [fileLine, if_neg hheader]
      omega
    rw [hsum]
    split
    next hlarge =>
      rw [overflows_iff] at hlarge
      exact iff_of_false (by simp) (by omega)
    next hfits =>
      rw [overflows_iff] at hfits
      exact iff_of_true rfl (by omega)

/-- **Lines are mapped in order**, as far as they are found. -/
theorem lt_of_fileLine? (h : block.headerLines < block.body.start) {a b x y : Nat}
    (ha : a ∈ block.sourceLines) (hb : b ∈ block.sourceLines) (hlt : a < b)
    (hx : block.fileLine? a = some x) (hy : block.fileLine? b = some y) : x < y := by
  rw [eq_fileLine_of_fileLine? hx, eq_fileLine_of_fileLine? hy]
  exact strictMonoOn_fileLine h ha hb hlt

/-- **The lines of the source and the lines they come from correspond** exactly if the last line of
the body has a successor among the words. -/
theorem bijOn_fileLine?_iff (h : block.headerLines < block.body.start) :
    Set.BijOn block.fileLine? block.sourceLines (some '' block.ownLines) ↔
      block.body.stop + 1 < wordBound := by
  have hbody := block.body.start_le_stop
  have hcount : block.body.count = block.body.stop - block.body.start + 1 := rfl
  have hbij := bijOn_fileLine h
  constructor
  · -- the last line of the source is the one that might not be found
    intro hwords
    have hlast : block.headerLines + block.body.count ∈ block.sourceLines := by
      rw [sourceLines, Set.mem_Icc]
      omega
    obtain ⟨found, -, hfound⟩ := hwords.mapsTo hlast
    have hsome := hfound.symm
    rw [eq_fileLine_of_fileLine? hsome, fileLine?_eq_some_iff] at hsome
    have hline : block.fileLine (block.headerLines + block.body.count) = block.body.stop := by
      rw [fileLine, if_neg (by omega)]
      omega
    omega
  · intro hcounted
    have hfound : Set.EqOn block.fileLine? (fun line => some (block.fileLine line))
        block.sourceLines := by
      intro line hline
      rw [fileLine?_eq_some_iff]
      rw [sourceLines, Set.mem_Icc] at hline
      unfold fileLine
      split <;> omega
    refine Set.BijOn.congr ?_ hfound.symm
    exact ((Option.some_injective Nat).injOn.bijOn_image).comp hbij

end ShaderBundle.Block
