import ShaderBundle.Glsl.Token
import ShaderBundle.Text.Lines

/-!
# Faults of a shader

## Main definitions

* `Cause` is what is wrong, `Cause.message` says it.
* `Fault` is a cause with the line it stands on.
* `report` is the log of a refused shader.
-/

namespace ShaderBundle.Glsl

/-- What is wrong with a shader. -/
inductive Cause where
  | endOfFile
  | invalidProfile (profile : Text)
  | invalidVersion (version : Nat)
  | unexpected (found : Token) (expected : List String)
  | notImplemented (what : String)
  | unknownVariable (name : Text)
  | unknownType (name : Text)
  | unknownField (name : Text)
  | alreadyDeclared (name : Text)
  | misuse (reason : Text)
  | directive (reason : String)
  deriving DecidableEq, Repr

/-- A fault and the line of the shader it stands on. -/
structure Fault where
  /-- The line, counted from one. -/
  line : Nat
  /-- What is wrong. -/
  cause : Cause
  deriving DecidableEq, Repr

/-- An enumeration: commas, and a word before the last item. -/
def enumerate : List String → String
  | [] => ""
  | [item] => item
  | [item, last] => item ++ " or " ++ last
  | item :: next :: others => item ++ ", " ++ enumerate (next :: others)

/-- What a cause says. -/
def Cause.message : Cause → Text
  | endOfFile => "Unexpected end of file".toList
  | invalidProfile profile => "Invalid profile: ".toList ++ profile
  | invalidVersion version => "Invalid version: ".toList ++ decimal version
  | unexpected found expected =>
    "Expected ".toList ++ (enumerate expected).toList ++ ", found ".toList ++ found.show
  | notImplemented what => "Not implemented: ".toList ++ what.toList
  | unknownVariable name => "Unknown variable: ".toList ++ name
  | unknownType name => "Unknown type: ".toList ++ name
  | unknownField name => "Unknown field: ".toList ++ name
  | alreadyDeclared name => "Variable already declared: ".toList ++ name
  | misuse reason => reason
  | directive reason => reason.toList

/-- A line of a log. -/
def logLine (line : Nat) (message : Text) : Text :=
  "ERROR: 0:".toList ++ decimal line ++ ':' :: ' ' :: message

/-- The log of a shader with these faults. -/
def report (faults : List Fault) : Text :=
  Text.unlines (faults.map fun fault => logLine fault.line fault.cause.message)

end ShaderBundle.Glsl
