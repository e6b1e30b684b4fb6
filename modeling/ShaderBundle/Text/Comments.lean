import ShaderBundle.Text.Bytes
import ShaderBundle.Text.Lines

/-!
# Comments

Scanning for pragmas and entry marks runs over a copy of the text in which comments are blanked
out. The copy keeps every line break and every byte position.

## Main definitions

* `Zone` says where a scanner stands: in code, in a `//` comment or in a `/* */` comment.
* `mask` blanks the comments of a text. Comments do not nest, and one that is not closed runs to
  the end of the text.

## Main statement

* `size_mask`: the copy has the size of the text, so positions found in it are positions of the
  text.
-/

namespace ShaderBundle

/-- Where a scanner of comments stands. -/
inductive Zone where
  | code
  | line
  | block
  deriving DecidableEq, Repr

/-- A comment character blanked out: a space for each byte. Line breaks stay. -/
def blankOut (c : Char) : Text :=
  if c = '\n' ∨ c = '\r' then [c] else List.replicate (width c) ' '

/-- The text with its comments blanked out, read from within the given zone. -/
def maskFrom : Zone → Text → Text
  | _, [] => []
  | .code, '/' :: '/' :: rest => ' ' :: ' ' :: maskFrom .line rest
  | .code, '/' :: '*' :: rest => ' ' :: ' ' :: maskFrom .block rest
  | .code, c :: rest => c :: maskFrom .code rest
  | .line, c :: rest => blankOut c ++ maskFrom (if c = '\n' then .code else .line) rest
  | .block, '*' :: '/' :: rest => ' ' :: ' ' :: maskFrom .code rest
  | .block, c :: rest => blankOut c ++ maskFrom .block rest

/-- The text with its comments blanked out. -/
def mask (s : Text) : Text :=
  maskFrom .code s

@[simp] theorem width_space : width ' ' = 1 := by decide

@[simp] theorem width_slash : width '/' = 1 := by decide

@[simp] theorem width_star : width '*' = 1 := by decide

@[simp] theorem size_replicate_space (n : Nat) : Text.size (List.replicate n ' ') = n := by
  induction n with
  | zero => rfl
  | succ n ih => rw [List.replicate_succ, Text.size_cons, ih, width_space, Nat.add_comm]

/-- Blanking out keeps the size. -/
@[simp] theorem size_blankOut (c : Char) : Text.size (blankOut c) = width c := by
  unfold blankOut
  split <;> simp

/-- The masked copy has the size of the text, from within any zone. -/
@[simp] theorem size_maskFrom (zone : Zone) (s : Text) :
    Text.size (maskFrom zone s) = Text.size s := by
  fun_induction maskFrom zone s <;> simp_all

@[simp] theorem size_mask (s : Text) : Text.size (mask s) = Text.size s :=
  size_maskFrom .code s

end ShaderBundle
