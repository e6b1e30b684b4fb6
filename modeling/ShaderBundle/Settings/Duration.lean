import ShaderBundle.Number.Binary

/-!
# Durations

A duration is a number of seconds and nanoseconds. It may be given as a floating-point number of
seconds, and then it is rounded to the nearest nanosecond; a number whose whole seconds do not fit
an unsigned word of 64 bits is no duration at all.

How durations are written in words is no matter of this module.

## Main definitions

* `Duration` is a time span, `Duration.inNanos` its length.
* `Duration.ofBinary?` is the duration of a number of seconds.

## Implementation notes

The seconds of a duration are a word of 64 bits and its nanoseconds less than a second. The
structure does not say so: durations are made by rounding, which is bounded here, and by readers of
texts, which are held to nothing.
-/

namespace ShaderBundle

/-- The first number that does not fit an unsigned word of 64 bits. -/
def longBound : Nat := 18446744073709551616

/-- The number of nanoseconds in a second. -/
def nanosPerSecond : Nat := 1000000000

/-- A time span. -/
structure Duration where
  /-- Whole seconds. -/
  seconds : Nat
  /-- Nanoseconds beyond them. -/
  nanos : Nat
  deriving DecidableEq, Repr

namespace Duration

/-- No time. -/
def zero : Duration := ⟨0, 0⟩

/-- The duration of so many nanoseconds. -/
def ofNanos (n : Nat) : Duration :=
  ⟨n / nanosPerSecond, n % nanosPerSecond⟩

/-- The whole duration in nanoseconds. -/
def inNanos (duration : Duration) : Nat :=
  duration.seconds * nanosPerSecond + duration.nanos

/-- Whether no time passes. -/
def isZero (duration : Duration) : Bool :=
  duration.seconds = 0 && duration.nanos = 0

/-- A number of seconds that is not negative, to the nearest nanosecond. There is no duration if the
seconds do not fit their word. -/
def ofBinary? : Binary → Option Duration
  | .finite _ mantissa exponent =>
    let (up, down) := Binary.power exponent
    let duration := ofNanos (Quotient.nearest (mantissa * up * nanosPerSecond) down)
    if mantissa * up < longBound * down then some duration else none
  | .infinite _ | .nan _ => none

end Duration

end ShaderBundle
