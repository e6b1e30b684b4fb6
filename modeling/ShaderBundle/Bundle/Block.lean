import ShaderBundle.Bundle.Entry
import ShaderBundle.Number.Word

/-!
# Stage blocks

A block is what a file contributes to one stage. Its source is the shared header followed by the
stage's body, so a compiler that reads the source counts lines differently from the file.

## Two maps of lines

The line of the file is given twice. `Block.fileLine` is the line itself, as a natural number; what
is said about the order and the range of lines is said with it. `Block.fileLine?` is the way on
which it is found: a difference, a sum and another difference of words. The sum is by one larger
than the line that it leads to, so the way can leave the words although the line is one. The two are
compared in `Block.fileLine?_eq`, and whatever is claimed of the lines that a log is reported with
is claimed of `Block.fileLine?`.

## Main definitions

* `Block` holds a stage's source with the lines it came from.
* `Block.fileLine` maps a line of the source to a line of the file.
* `Block.fileLine?` does so in words of 32 bits, step by step.
* `Block.overflows` says for which lines the steps leave these words.
-/

namespace ShaderBundle

/-- One stage of a file, ready for a GLSL compiler. The numbers of lines are words for every file
whose lines can be counted in words; `Bundle.split?_eq` says so. -/
structure Block where
  /-- The stage. -/
  stage : Stage
  /-- The shared header, a line feed, and the body with its entry function renamed. -/
  source : Text
  /-- The name the entry function had in the file. -/
  entry : Text
  /-- How many lines of the source come from the header. -/
  headerLines : Nat
  /-- The lines of the file that hold the body. -/
  body : LineRange
  deriving DecidableEq, Repr

namespace Block

/-- The line of the file that a line of the source comes from. Header lines keep their number. -/
def fileLine (block : Block) (line : Nat) : Nat :=
  if line ≤ block.headerLines then line
  else line - block.headerLines + block.body.start - 1

/-- The line of the file that a line of the source comes from, if no step on the way to it leaves
the words of 32 bits. -/
def fileLine? (block : Block) (line : Nat) : Option Nat :=
  if line ≤ block.headerLines then some line
  else do
    let beyond ← Word.sub? line block.headerLines
    let shifted ← Word.add? beyond block.body.start
    Word.sub? shifted 1

/-- Whether the sum inside `fileLine?` exceeds the words of 32 bits that lines are kept in. -/
def overflows (block : Block) (line : Nat) : Bool :=
  block.headerLines < line && wordBound ≤ line - block.headerLines + block.body.start

end Block

end ShaderBundle
