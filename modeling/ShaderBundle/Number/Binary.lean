/-!
# Binary floating point

A number in decimal is stored in binary as the nearest number of a format. Everything here is exact
arithmetic on natural numbers; no machine arithmetic is involved.

## Main definitions

* `Quotient.nearest` rounds a quotient to a natural number, a half to the even neighbour.
* `BinaryFormat` describes a format, `binary32` and `binary64` are the two in use.
* `Binary` is a number of a format: zero and finite numbers as `mantissa * 2 ^ exponent`,
  infinities, and values that are no number.
* `Binary.ofDecimal` stores a decimal number.
-/

namespace ShaderBundle

/-- The quotient to the nearest natural number, a half to the even neighbour. -/
def Quotient.nearest (num den : Nat) : Nat :=
  let low := num / den
  let rest := num % den
  if 2 * rest < den then low
  else if 2 * rest > den then low + 1
  else low + low % 2

/-- A binary format. -/
structure BinaryFormat where
  /-- How many bits a mantissa has. -/
  precision : Nat
  /-- The exponent of the smallest numbers, as that of a power of two in a denominator. -/
  depth : Nat
  /-- Numbers from this power of two on are infinite. -/
  top : Nat
  deriving DecidableEq, Repr

/-- Single precision. -/
def binary32 : BinaryFormat := ⟨24, 149, 128⟩

/-- Double precision. -/
def binary64 : BinaryFormat := ⟨53, 1074, 1024⟩

/-- A binary floating-point number. -/
inductive Binary where
  /-- A finite number or a zero, which has a sign too. -/
  | finite (negative : Bool) (mantissa : Nat) (exponent : Int)
  | infinite (negative : Bool)
  | nan (negative : Bool)
  deriving DecidableEq, Repr

namespace Binary

/-- Whether the sign is minus, also that of a zero. -/
def isNegative : Binary → Bool
  | finite negative _ _ | infinite negative | nan negative => negative

/-- A power of two as a quotient. -/
def power : Int → Nat × Nat
  | .ofNat n => (Nat.pow 2 n, 1)
  | .negSucc n => (1, Nat.pow 2 (n + 1))

/-- The exponent for a quotient: the mantissa then fills the precision, unless the number is too
small for that. -/
def exponentFor (format : BinaryFormat) (num den : Nat) : Int :=
  let guess : Int := (Nat.log2 num : Int) - Nat.log2 den - format.precision
  let (up, down) := power (guess + 1)
  -- The guess is one too small if the mantissa would not fit.
  let exact :=
    if num * down ≥ den * up * Nat.pow 2 (format.precision - 1) then guess + 1 else guess
  max exact (-(format.depth : Int))

/-- The number with a mantissa that may have been rounded up to one bit more than fits. -/
def ofMantissa (format : BinaryFormat) (negative : Bool) (mantissa : Nat) (exponent : Int) :
    Binary :=
  let (up, down) := power exponent
  if mantissa * up ≥ Nat.pow 2 format.top * down then infinite negative
  else if mantissa = Nat.pow 2 format.precision then
    finite negative (Nat.pow 2 (format.precision - 1)) (exponent + 1)
  else finite negative mantissa exponent

/-- A quotient in a format. -/
def ofQuotient (format : BinaryFormat) (negative : Bool) (num den : Nat) : Binary :=
  if num = 0 then finite negative 0 0
  else
    let exponent := exponentFor format num den
    let (up, down) := power exponent
    ofMantissa format negative (Quotient.nearest (num * down) (den * up)) exponent

/-- The decimal number `digits * 10 ^ exponent` in a format. Numbers far outside the range of every
format are told by their size alone. -/
def ofDecimal (format : BinaryFormat) (negative : Bool) (digits : Nat) (exponent : Int) : Binary :=
  let bits : Int := Nat.log2 digits
  if digits = 0 || bits + 3 * exponent < -1100 then finite negative 0 0
  else if bits / 4 + exponent > 400 then infinite negative
  else match exponent with
    | .ofNat n => ofQuotient format negative (digits * Nat.pow 10 n) 1
    | .negSucc n => ofQuotient format negative digits (Nat.pow 10 (n + 1))

end Binary

end ShaderBundle
