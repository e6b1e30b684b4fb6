import ShaderBundle.Text.Blank

/-!
# Lines

A line ends at a line feed. A carriage return directly before the line feed belongs to the ending;
one that no line feed follows is a character of its line. A file that ends with a line feed has no
further, empty line.

The pieces of a text and its lines are kept apart. Pieces are what editing works with: joined with
feeds they give the text back. Lines are what is counted and reported. The two differ by the empty
piece behind the last feed, and by carriage returns.

## Main definitions

* `Text.pieces` cuts at every line feed and keeps carriage returns.
* `Text.lines` is the list of lines in the sense above.
* `Text.unlines` joins lines with single line feeds.
-/

namespace ShaderBundle.Text

/-- The parts between line feeds. There is one more part than there are line feeds. -/
def pieces : Text → List Text
  | [] => [[]]
  | c :: rest =>
    if c = '\n' then [] :: pieces rest
    else match pieces rest with
      | [] => [[c]]
      | first :: others => (c :: first) :: others

/-- The text without one carriage return at its end. -/
def dropReturn : Text → Text
  | [] => []
  | [c] => if c = '\r' then [] else [c]
  | c :: d :: rest => c :: dropReturn (d :: rest)

/-- Every part but the last was closed by a line feed; an empty last part is no line. -/
def closeLines : List Text → List Text
  | [] => []
  | [last] => if last.isEmpty then [] else [last]
  | line :: next :: others => dropReturn line :: closeLines (next :: others)

/-- The lines of a text. -/
def lines (s : Text) : List Text :=
  closeLines (pieces s)

/-- The lines with one line feed between each two. -/
def unlines (ls : List Text) : Text :=
  List.intercalate ['\n'] ls

/-- How many line feeds the text has. -/
def feeds (s : Text) : Nat :=
  s.count '\n'

@[simp] theorem pieces_nil : pieces [] = [[]] := rfl

theorem pieces_ne_nil (s : Text) : pieces s ≠ [] := by
  cases s with
  | nil => simp
  | cons c rest =>
    unfold pieces
    split
    · simp
    · split <;> simp

theorem pieces_feed (rest : Text) : pieces ('\n' :: rest) = [] :: pieces rest := by
  simp [pieces]

theorem pieces_cons {c : Char} (h : c ≠ '\n') (rest : Text) :
    ∃ first others,
      pieces rest = first :: others ∧ pieces (c :: rest) = (c :: first) :: others := by
  cases hp : pieces rest with
  | nil => exact absurd hp (pieces_ne_nil rest)
  | cons first others => exact ⟨first, others, rfl, by simp [pieces, h, hp]⟩

/-- Joining the parts gives the text back. -/
@[simp] theorem unlines_pieces (s : Text) : unlines (pieces s) = s := by
  induction s with
  | nil => rfl
  | cons c rest ih =>
    by_cases h : c = '\n'
    · subst h
      rw [pieces_feed]
      cases hp : pieces rest with
      | nil => exact absurd hp (pieces_ne_nil rest)
      | cons first others =>
        rw [hp] at ih
        simpa [unlines, List.intercalate, List.intersperse] using ih
    · obtain ⟨first, others, hp, hc⟩ := pieces_cons h rest
      rw [hc]
      rw [hp] at ih
      cases others with
      | nil => simpa [unlines, List.intercalate, List.intersperse] using ih
      | cons second more =>
        simp only [unlines, List.intercalate, List.intersperse, List.flatten_cons,
          List.cons_append] at ih ⊢
        rw [ih]

/-- There is one part more than there are line feeds. -/
theorem length_pieces (s : Text) : (pieces s).length = feeds s + 1 := by
  induction s with
  | nil => rfl
  | cons c rest ih =>
    by_cases h : c = '\n'
    · subst h
      rw [pieces_feed]
      simp [feeds, ih]
    · obtain ⟨first, others, hp, hc⟩ := pieces_cons h rest
      rw [hc]
      rw [hp] at ih
      have hcount : feeds (c :: rest) = feeds rest := by
        simp [feeds, h]
      rw [hcount, ← ih]
      simp

end ShaderBundle.Text
