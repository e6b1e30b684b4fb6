import ShaderBundle.Settings.Duration
import ShaderBundle.Text.Bytes
import ShaderBundle.Text.Decimal
import ShaderBundle.Text.Quoted
import ShaderBundle.Text.Search

/-!
# Durations in words

A duration is written as a sum of quantities with units, as in `1h 30m`; a quantity may have
a decimal fraction if nothing below a nanosecond is lost.

This is the reader that the programs of this library run with. Settings take any reader of
durations, so nothing that is proved of them rests on the names of units or on the wording of errors
here.

## Main definitions

* `TimeUnit` lists the units with their names and lengths.
* `Duration.parse` reads a text, and `DurationError` says what is wrong with it.

## Implementation notes

Positions in errors are byte positions. Every intermediate number has to fit an unsigned word of 64
bits.
-/

namespace ShaderBundle

/-- A unit of time. -/
inductive TimeUnit where
  | nanosecond
  | microsecond
  | millisecond
  | second
  | minute
  | hour
  | day
  | week
  | month
  | year
  deriving DecidableEq, Repr

namespace TimeUnit

/-- Every unit. -/
def all : List TimeUnit :=
  [nanosecond, microsecond, millisecond, second, minute, hour, day, week, month, year]

/-- The names of a unit. -/
def names : TimeUnit → List String
  | nanosecond => ["nanos", "nsec", "ns"]
  | microsecond => ["usec", "us", "µs"]
  | millisecond => ["millis", "msec", "ms"]
  | second => ["seconds", "second", "secs", "sec", "s"]
  | minute => ["minutes", "minute", "min", "mins", "m"]
  | hour => ["hours", "hour", "hrs", "hr", "h"]
  | day => ["days", "day", "d"]
  | week => ["weeks", "week", "wks", "wk", "w"]
  | month => ["months", "month", "M"]
  | year => ["years", "year", "yrs", "yr", "y"]

/-- The unit with a name. -/
def ofName? (name : Text) : Option TimeUnit :=
  all.find? fun unit => (unit.names.map String.toList).contains name

/-- The length in nanoseconds of a unit that is shorter than a second, and in seconds of any other.
A month is a twelfth of a year of 365.25 days, up to a few seconds. -/
def length : TimeUnit → Nat
  | nanosecond => 1
  | microsecond => 1000
  | millisecond => 1000000
  | second => 1
  | minute => 60
  | hour => 3600
  | day => 86400
  | week => 604800
  | month => 2630016
  | year => 31557600

/-- Whether whole numbers of the unit are counted in nanoseconds. -/
def isShort : TimeUnit → Bool
  | nanosecond | microsecond | millisecond => true
  | _ => false

/-- Whether fractions of the unit are counted in nanoseconds. -/
def hasShortFractions : TimeUnit → Bool
  | nanosecond | microsecond | millisecond | second | minute => true
  | _ => false

end TimeUnit

/-- What is wrong with the text of a duration. -/
inductive DurationError where
  | empty
  | numberExpected (position : Nat)
  | invalidCharacter (position : Nat)
  | tooLarge
  | unitMissing (value : Nat)
  | unknownUnit (unit : Text)
  deriving DecidableEq, Repr

/-- The error in words. -/
def DurationError.message : DurationError → Text
  | empty => "value was empty".toList
  | numberExpected position => "expected number at ".toList ++ decimal position
  | invalidCharacter position => "invalid character at ".toList ++ decimal position
  | tooLarge =>
    "number is too large or cannot be represented without a lack of precision ".toList ++
      "(values below 1ns are not supported)".toList
  | unitMissing value =>
    "time unit needed, for example ".toList ++ decimal value ++ "sec or ".toList ++
      decimal value ++ "ms".toList
  | unknownUnit unit => "unknown time unit ".toList ++ Text.quote unit ++
      ", supported units: ns, us/µs, ms, sec, min, hours, days, weeks, months, years ".toList ++
      "(and few variations)".toList

namespace Duration

/-- A number that fits its word. -/
def bounded (n : Nat) : Except DurationError Nat :=
  if n < longBound then .ok n else .error .tooLarge

/-- A decimal fraction. -/
structure Fraction where
  /-- The digits as a number. -/
  num : Nat
  /-- A power of ten. -/
  den : Nat
  deriving DecidableEq, Repr

/-- A quotient without remainder, whose terms fit their words. -/
def exactly (num den : Nat) : Except DurationError Nat := do
  let num ← bounded num
  if num % den = 0 then return num / den else throw .tooLarge

/-- The sum of a duration, some seconds and some nanoseconds. -/
def plus (total : Duration) (seconds nanos : Nat) : Except DurationError Duration := do
  let nanos ← bounded (total.nanos + nanos)
  let seconds ← bounded (total.seconds + (seconds + nanos / nanosPerSecond))
  return ⟨seconds, nanos % nanosPerSecond⟩

/-- The sum of a duration and whole units. -/
def plusWhole (total : Duration) (unit : TimeUnit) (n : Nat) : Except DurationError Duration := do
  let length ← bounded (n * unit.length)
  if unit.isShort then total.plus 0 length else total.plus length 0

/-- How many of its smallest parts a unit has when it is divided: nanoseconds or seconds. -/
def parts (unit : TimeUnit) : Nat :=
  if unit.hasShortFractions && !unit.isShort then unit.length * nanosPerSecond else unit.length

/-- The sum of a duration and a fraction of a unit. -/
def plusFraction (total : Duration) (unit : TimeUnit) (fraction : Fraction) :
    Except DurationError Duration := do
  if unit = .nanosecond then throw .tooLarge
  let length ← exactly (fraction.num * parts unit) fraction.den
  if unit.hasShortFractions then total.plus 0 length else total.plus length 0

/-- The sum of a duration and a quantity of a named unit. -/
def plusQuantity (total : Duration) (n : Nat) (fraction : Option Fraction) (unit : Text) :
    Except DurationError Duration := do
  match TimeUnit.ofName? unit with
  | none => throw (if unit.isEmpty then .unitMissing n else .unknownUnit unit)
  | some unit =>
    let total ← total.plusWhole unit n
    match fraction with
    | none => return total
    | some fraction => total.plusFraction unit fraction

/-- A letter of a unit. -/
def isUnitLetter (c : Char) : Bool :=
  c.isAlpha || c = 'µ'

/-- The digits behind a point up to a letter, with the position of the letter. `position` is that of
the next character and `last` where a fault would be reported. -/
def readFraction (fraction : Fraction) (last position : Nat) :
    Text → Except DurationError (Fraction × Nat × Text)
  | [] =>
    if fraction.den = 1 then .error (.invalidCharacter last) else .ok (fraction, last, [])
  | c :: rest => do
    if isDigit c then
      let den ← bounded (10 * fraction.den)
      let num ← bounded (10 * fraction.num + digitValue c)
      readFraction ⟨num, den⟩ (position + width c) (position + width c) rest
    else if isBlank c then
      readFraction fraction (position + width c) (position + width c) rest
    else if isUnitLetter c && fraction.den ≠ 1 then return (fraction, last, c :: rest)
    else throw (.invalidCharacter last)

/-- The number that goes on from `n` up to a letter, with its fraction and the position of the
letter. -/
def readNumber (n position : Nat) :
    Text → Except DurationError (Nat × Option Fraction × Nat × Text)
  | [] => .ok (n, none, position, [])
  | c :: rest => do
    if isDigit c then
      let n ← bounded (10 * n + digitValue c)
      readNumber n (position + width c) rest
    else if isBlank c then readNumber n (position + width c) rest
    else if isUnitLetter c then return (n, none, position, c :: rest)
    else if c = '.' then
      let (fraction, position, rest) ← readFraction ⟨0, 1⟩ position (position + width c) rest
      return (n, some fraction, position, rest)
    else throw (.invalidCharacter position)

/-- The first digit of the next number, if there is one. Only blanks may precede it; a fault is
reported where they begin. -/
def readFirst (fault position : Nat) : Text → Except DurationError (Option (Nat × Nat × Text))
  | [] => .ok none
  | c :: rest =>
    if isDigit c then .ok (some (digitValue c, position + width c, rest))
    else if isBlank c then readFirst fault (position + width c) rest
    else .error (.numberExpected fault)

/-- The sum of a duration and the quantities of a text, the first of which begins with `n`. -/
def readQuantities : Nat → Duration → Nat → Nat → Text → Except DurationError Duration
  | 0, total, _, _, _ => .ok total
  | fuel + 1, total, n, position, s => do
    let (n, fraction, position, s) ← readNumber n position s
    let unit := s.takeWhile isUnitLetter
    let position := position + Text.size unit
    match s.dropWhile isUnitLetter with
    | [] => total.plusQuantity n fraction unit
    | c :: rest =>
      if isDigit c then
        let total ← total.plusQuantity n fraction unit
        readQuantities fuel total (digitValue c) (position + width c) rest
      else if isBlank c then
        let total ← total.plusQuantity n fraction unit
        match ← readFirst (position + width c) (position + width c) rest with
        | none => return total
        | some (n, position, rest) => readQuantities fuel total n position rest
      else throw (.invalidCharacter position)

/-- The duration that a text denotes. -/
def parse (s : Text) : Except DurationError Duration := do
  if s = ['0'] then return zero
  match ← readFirst 0 0 s with
  | none => throw .empty
  | some (n, position, rest) => readQuantities (s.length + 1) zero n position rest

end Duration

end ShaderBundle
