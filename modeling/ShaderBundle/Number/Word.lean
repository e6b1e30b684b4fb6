import ShaderBundle.Text.Decimal

/-!
# Words of 32 bits

Lines, ids and locations are kept in words of 32 bits. The rest of the library counts them with
natural numbers, which is what its statements are about; this module says what the words do, so that
it can be proved where the two agree and where they part.

## Scope

A word is written as the natural number that it stands for. A type of words of its own would put a
conversion into every statement about a line, and the only question that is ever asked of a word is
whether an operation on it left its range. So there are three operations and no type: one that cuts
a number down to a word, as a conversion of a longer number does, and two that have no result when
the number they lead to is no word.

An operation without a result stands for the end of the job that does it. Nothing is caught on the
way: what follows the operation is not done.

## Main definitions

* `Word.cut` is the word that is left of a number.
* `Word.add?` and `Word.sub?` are the sum and the difference, if they are words.

## Main results

* `Word.cut_of_lt`, `Word.add?_of_lt`, `Word.sub?_of_le` say when the operations are those of
  numbers. They are all that other modules use of the definitions.
-/

namespace ShaderBundle.Word

/-- What is left of a number in a word. Digits that do not fit are lost without notice. -/
def cut (n : Nat) : Nat :=
  n % wordBound

/-- The sum of two words, unless it would be too large. -/
def add? (a b : Nat) : Option Nat :=
  if a + b < wordBound then some (a + b) else none

/-- The difference of two words, unless it would be below zero. -/
def sub? (a b : Nat) : Option Nat :=
  if b ≤ a then some (a - b) else none

variable {a b n : Nat}

/-- A word is left as it is. -/
theorem cut_of_lt (h : n < wordBound) : cut n = n :=
  Nat.mod_eq_of_lt h

theorem add?_of_lt (h : a + b < wordBound) : add? a b = some (a + b) :=
  if_pos h

theorem add?_of_le (h : wordBound ≤ a + b) : add? a b = none :=
  if_neg (Nat.not_lt.mpr h)

theorem sub?_of_le (h : b ≤ a) : sub? a b = some (a - b) :=
  if_pos h

end ShaderBundle.Word
