import ShaderBundle.Text.Blank

/-!
# Decimal numbers

Line numbers, locations and counters are written in decimal without leading zeros. Read back, they
have to fit a word of 32 bits where the reader says so.

## Main definitions

* `decimal n` writes a number.
* `digitsValue` is the value of a run of digits, `readWord?` the one that also bounds it.
-/

namespace ShaderBundle

/-- The number in decimal, as characters. -/
def decimal (n : Nat) : Text :=
  Nat.toDigits 10 n

/-- A decimal digit of ASCII. -/
def isDigit (c : Char) : Bool :=
  '0' ≤ c && c ≤ '9'

/-- The value of a digit. -/
def digitValue (c : Char) : Nat :=
  c.toNat - '0'.toNat

/-- The number that a run of digits denotes; leading zeros do not matter. -/
def digitsValue (ds : Text) : Nat :=
  ds.foldl (fun n c => 10 * n + digitValue c) 0

/-- The first number that does not fit a word of 32 bits. -/
def wordBound : Nat := 4294967296

/-- The digits at the front of a text and the rest. -/
def spanDigits (s : Text) : Text × Text :=
  (s.takeWhile isDigit, s.dropWhile isDigit)

/-- A run of digits as a word of 32 bits. A leading plus sign is allowed. -/
def readWord? (s : Text) : Option Nat :=
  let ds := match s with
    | '+' :: rest => rest
    | _ => s
  if ds.isEmpty || !ds.all isDigit then none
  else if digitsValue ds < wordBound then some (digitsValue ds) else none

theorem spanDigits_append (s : Text) : (spanDigits s).1 ++ (spanDigits s).2 = s := by
  simp [spanDigits]

theorem isDigit_of_mem_spanDigits {s : Text} {c : Char} (h : c ∈ (spanDigits s).1) :
    isDigit c = true := by
  simpa using List.all_takeWhile (p := isDigit) (l := s) ▸ List.all_eq_true.1
    (List.all_takeWhile (p := isDigit) (l := s)) c h

end ShaderBundle
