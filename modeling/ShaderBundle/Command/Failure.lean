import ShaderBundle.Text.Decimal
import ShaderBundle.Text.Lines

/-!
# Failures

A failure is told with what caused it: a message, and the messages behind it down to the first one.

## Main definitions

* `Failure` is a message with its causes.
* `Failure.report` is what the program writes before it gives up.
-/

namespace ShaderBundle.Command

/-- A message with its causes, the first of which is the nearest. -/
structure Failure where
  /-- What went wrong. -/
  message : Text
  /-- Why, from the nearest cause to the first one. -/
  causes : List Text := []
  deriving DecidableEq, Repr

namespace Failure

/-- A text whose lines behind the first one stand further in. -/
def indented (depth : Nat) (text : Text) : Text :=
  List.intercalate ('\n' :: List.replicate depth ' ') text.pieces

/-- A number at the end of five columns. -/
def column (n : Nat) : Text :=
  List.replicate (5 - (decimal n).length) ' ' ++ decimal n

/-- Causes with their numbers. -/
def numbered (next : Nat) : List Text → Text
  | [] => []
  | cause :: rest =>
    '\n' :: column next ++ ": ".toList ++ indented 7 cause ++ numbered (next + 1) rest

/-- The causes. A single one has no number. -/
def explanation : List Text → Text
  | [] => []
  | [cause] => "\n\nCaused by:\n    ".toList ++ indented 4 cause
  | causes => "\n\nCaused by:".toList ++ numbered 0 causes

/-- The failure with its causes. -/
def report (failure : Failure) : Text :=
  "Error: ".toList ++ failure.message ++ explanation failure.causes ++ ['\n']

end Failure

end ShaderBundle.Command
