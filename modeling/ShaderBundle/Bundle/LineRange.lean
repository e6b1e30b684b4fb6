/-!
# Line ranges

Places in a file are given as ranges of lines, counted from one with both ends included. A range
is never empty.

Line numbers are kept in words of 32 bits where a file is split, and are natural numbers here.
Nothing is added to the ends of a range but to count its lines, which are no more than its last
line; so the two agree for every file whose lines a word can count. Sums of line numbers that might
not fit are looked at where they are made.
-/

namespace ShaderBundle

/-- The lines from `start` to `stop`, both included. -/
structure LineRange where
  /-- The first line. -/
  start : Nat
  /-- The last line. -/
  stop : Nat
  /-- A range holds at least one line. -/
  start_le_stop : start ≤ stop
  deriving DecidableEq, Repr

namespace LineRange

/-- The range from `start` to `stop`, or the line `start` alone if `stop` comes before it. -/
def spanning (start stop : Nat) : LineRange where
  start := start
  stop := max start stop
  start_le_stop := Nat.le_max_left start stop

/-- One line. -/
def single (line : Nat) : LineRange :=
  spanning line line

/-- Whether a line lies in the range. -/
def contains (range : LineRange) (line : Nat) : Bool :=
  range.start ≤ line && line ≤ range.stop

/-- The number of lines. -/
def count (range : LineRange) : Nat :=
  range.stop - range.start + 1

/-- The range in words. -/
def text (range : LineRange) : String :=
  if range.start = range.stop then s!"line {range.start}"
  else s!"lines {range.start}-{range.stop}"

@[simp] theorem start_spanning (start stop : Nat) : (spanning start stop).start = start := rfl

theorem stop_spanning {start stop : Nat} (h : start ≤ stop) :
    (spanning start stop).stop = stop :=
  Nat.max_eq_right h

end LineRange

end ShaderBundle
