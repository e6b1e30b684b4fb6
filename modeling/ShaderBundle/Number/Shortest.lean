import ShaderBundle.Number.Binary
import ShaderBundle.Text.Decimal

/-!
# Shortest decimal text of a binary number

A number is written with the fewest digits that read back as the same number, and of several such
texts the one nearest to it.

## Main definitions

* `Shortest.grid?` tests the two neighbours of a number on one decimal grid.
* `Shortest.digits` finds the coarsest grid with a neighbour that reads back.
* `Binary.positional` writes a number without an exponent, `Binary.withPoint` always with a point.

## Implementation notes

A neighbour reads back if it lies between the halfway points to the next numbers. The halfway points
themselves read back if the mantissa is even. Below a power of two the next number is nearer by
half. All lengths are counted in quarters of the last place.
-/

namespace ShaderBundle

namespace Shortest

/-- A number with the interval of what reads back as it, over one denominator. -/
structure Target where
  /-- The number. -/
  value : Nat
  /-- How far the interval reaches down. -/
  below : Nat
  /-- How far it reaches up. -/
  above : Nat
  /-- The common denominator. -/
  den : Nat
  /-- Whether the ends belong to it. -/
  closed : Bool
  deriving DecidableEq, Repr

/-- The target for a mantissa and an exponent. -/
def target (format : BinaryFormat) (mantissa : Nat) (exponent : Int) : Target :=
  let (up, down) := Binary.power (exponent - 2)
  let narrow := mantissa = Nat.pow 2 (format.precision - 1) && exponent > -(format.depth : Int)
  { value := 4 * mantissa * up
    below := (if narrow then 1 else 2) * up
    above := 2 * up
    den := down
    closed := mantissa % 2 = 0 }

/-- Whether the number `num / den` lies in the interval of a target. -/
def Target.admits (target : Target) (num den : Nat) : Bool :=
  let point := num * target.den
  let value := target.value * den
  if point ≤ value then
    let gap := value - point
    gap < target.below * den || (target.closed && gap = target.below * den)
  else
    let gap := point - value
    gap < target.above * den || (target.closed && gap = target.above * den)

/-- The neighbour on the grid of multiples of `10 ^ exponent` that reads back, the nearer one if
both do. -/
def grid? (target : Target) (exponent : Int) : Option Nat :=
  let (up, down) := match exponent with
    | .ofNat n => (Nat.pow 10 n, 1)
    | .negSucc n => (1, Nat.pow 10 (n + 1))
  let low := target.value * down / (target.den * up)
  let admits (n : Nat) := target.admits (n * up) down
  match admits low, admits (low + 1) with
  | false, false => none
  | true, false => some low
  | false, true => some (low + 1)
  | true, true => some (Quotient.nearest (target.value * down) (target.den * up))

/-- The digits on the first grid with a hit, from a grid on and towards finer ones. -/
def search (target : Target) : Nat → Int → Nat × Int
  | 0, exponent => (target.value / target.den, exponent)
  | fuel + 1, exponent =>
    match grid? target exponent with
    | some digits => (digits, exponent)
    | none => search target fuel (exponent - 1)

/-- The digits and the exponent of ten for a positive number. -/
def digits (format : BinaryFormat) (mantissa : Nat) (exponent : Int) : Nat × Int :=
  let target := target format mantissa exponent
  let whole := (decimal (target.value / target.den)).length
  search target (whole + format.depth + 2) whole

/-- Digits with the point where the exponent puts it. -/
def place (digits : Nat) : Int → Text
  | .ofNat n => decimal digits ++ List.replicate n '0'
  | .negSucc n =>
    let ds := decimal digits
    let fraction := n + 1
    let padded := List.replicate (fraction + 1 - ds.length) '0' ++ ds
    padded.take (padded.length - fraction) ++ '.' :: padded.drop (padded.length - fraction)

end Shortest

namespace Binary

/-- The sign in front of a number. -/
def signText (negative : Bool) : Text :=
  if negative then ['-'] else []

/-- The number without an exponent. -/
def positional (format : BinaryFormat) : Binary → Text
  | finite negative 0 _ => signText negative ++ ['0']
  | finite negative mantissa exponent =>
    let (digits, power) := Shortest.digits format mantissa exponent
    signText negative ++ Shortest.place digits power
  | infinite negative => signText negative ++ "inf".toList
  | nan _ => "NaN".toList

/-- The number without an exponent and with a point, if it is finite. -/
def withPoint (format : BinaryFormat) (number : Binary) : Text :=
  let text := number.positional format
  match number with
  | finite _ _ _ => if text.contains '.' then text else text ++ ['.', '0']
  | _ => text

end Binary

end ShaderBundle
