/-!
# Blank characters

Two notions of blank meet in a unified shader file. Lines and directives are trimmed by the
Unicode property `White_Space`; the declaration scanner behind an entry mark skips five ASCII
characters only.

## Main definitions

* `isBlank` is the Unicode property, as a table of ranges.
* `isScanBlank` is the scanner's set. It leaves out the vertical tab, which `isBlank` admits.
* `Text` is the representation every scanner of the library reads.
* `trimStart`, `trimEnd`, `trim` and `words` cut a text at its blanks.

## Implementation notes

A text is a list of characters because every function on it recurses on that list. Positions that
have to agree between a text and its masked copy are counted in bytes, in `Text.Bytes`.
-/

namespace ShaderBundle

/-- The characters of a file, a line or a name, in order. -/
abbrev Text := List Char

/-- The ranges of code points with the Unicode property `White_Space`. -/
def blankRanges : List (Nat × Nat) :=
  [(0x09, 0x0D), (0x20, 0x20), (0x85, 0x85), (0xA0, 0xA0), (0x1680, 0x1680), (0x2000, 0x200A),
    (0x2028, 0x2029), (0x202F, 0x202F), (0x205F, 0x205F), (0x3000, 0x3000)]

/-- Unicode white space. -/
def isBlank (c : Char) : Bool :=
  blankRanges.any fun (low, high) => low ≤ c.toNat && c.toNat ≤ high

/-- The blanks allowed between the tokens of an entry declaration. -/
def isScanBlank (c : Char) : Bool :=
  c = ' ' || c = '\t' || c = '\n' || c = '\r' || c = '\x0c'

/-- A letter, digit or underscore of ASCII: what an identifier is made of. -/
def isWordChar (c : Char) : Bool :=
  c.isAlphanum || c = '_'

namespace Text

/-- The text without its leading blanks. -/
def trimStart (s : Text) : Text :=
  s.dropWhile isBlank

/-- The text without its trailing characters that satisfy `p`. -/
def dropEndWhile (p : Char → Bool) (s : Text) : Text :=
  s.foldr (fun c kept => if kept.isEmpty && p c then [] else c :: kept) []

/-- The text without its trailing blanks. -/
def trimEnd (s : Text) : Text :=
  s.dropEndWhile isBlank

/-- The text without blanks at either end. -/
def trim (s : Text) : Text :=
  s.trimStart.trimEnd

/-- Whether nothing but blanks is in the text. -/
def isAllBlank (s : Text) : Bool :=
  s.all isBlank

/-- The maximal runs of characters that are not blank, in order. -/
def words : Text → List Text
  | [] => []
  | c :: rest =>
    if isBlank c then words rest
    else match rest, words rest with
      | [], _ => [[c]]
      | next :: _, found =>
        if isBlank next then [c] :: found
        else match found with
          | [] => [[c]]
          | word :: others => (c :: word) :: others

@[simp] theorem dropEndWhile_nil (p : Char → Bool) : dropEndWhile p [] = [] := rfl

/-- Dropping from the end keeps an initial part. -/
theorem dropEndWhile_isInitial (p : Char → Bool) (s : Text) :
    ∃ dropped : Text, s = s.dropEndWhile p ++ dropped ∧ ∀ c ∈ dropped, p c = true := by
  induction s with
  | nil => exact ⟨[], by simp, by simp⟩
  | cons c rest ih =>
    obtain ⟨dropped, hrest, hall⟩ := ih
    simp only [dropEndWhile, List.foldr_cons]
    rw [show List.foldr (fun c kept => if (kept.isEmpty && p c) = true then [] else c :: kept) []
      rest = dropEndWhile p rest from rfl]
    by_cases hcut : ((dropEndWhile p rest).isEmpty && p c) = true
    · rw [if_pos hcut]
      rw [Bool.and_eq_true, List.isEmpty_iff] at hcut
      refine ⟨c :: dropped, ?_, ?_⟩
      · rw [hcut.1] at hrest
        simp [hrest]
      · simpa [hcut.2] using hall
    · rw [if_neg hcut]
      exact ⟨dropped, by rw [List.cons_append, ← hrest], hall⟩

end Text

end ShaderBundle
