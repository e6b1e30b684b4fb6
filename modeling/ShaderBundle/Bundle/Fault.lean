import ShaderBundle.Bundle.LineRange
import ShaderBundle.Bundle.Stage
import ShaderBundle.Text.Decimal

/-!
# What can be wrong with a unified shader file

A file is refused for one of three causes: a required stage is absent, no version directive comes
before the first stage, or something is malformed at a place that can be pointed to.

## Main definitions

* `EntryFault` says why an entry mark is not followed by a function definition.
* `Fault` says what is malformed.
* `SplitError` is the cause of a refusal, with `SplitError.message` as its wording.
-/

namespace ShaderBundle

/-- Why an entry mark does not introduce a function definition. -/
inductive EntryFault where
  | noDeclaration
  | noName
  | noParameters
  | openParameters
  | noBody
  deriving DecidableEq, Repr

/-- What is malformed, apart from where. -/
inductive Fault where
  /-- A stage that an earlier line opened. -/
  | duplicate (stage : Stage) (first : Nat)
  /-- A pragma that opens no stage and is not let through. -/
  | unknownPragma (argument : Text)
  /-- An entry mark before the first stage. -/
  | entryInHeader
  /-- A stage without code. -/
  | emptyBody
  /-- A stage without an entry mark. -/
  | noEntry
  /-- More than one entry mark, on these lines. -/
  | manyEntries (lines : List Nat)
  /-- An entry mark on this line that introduces no function definition. -/
  | badEntry (line : Nat) (cause : EntryFault)
  deriving DecidableEq, Repr

/-- Why a file was refused. -/
inductive SplitError where
  /-- No version directive before the first stage. -/
  | missingVersion
  /-- Something malformed in a stage, or outside all stages. -/
  | malformed (stage : Option Stage) (lines : LineRange) (fault : Fault)
  /-- Required stages that no pragma opens, in pipeline order. -/
  | incomplete (missing : List Stage)
  deriving DecidableEq, Repr

/-- The cause in words. -/
def EntryFault.message : EntryFault → String
  | noDeclaration => "`@entry` must be followed by a function declaration"
  | noName => "expected the entry function name after its return type"
  | noParameters => "expected `(` after the entry function name"
  | openParameters => "unterminated entry function parameter list"
  | noBody => "the entry function must have a body"

/-- The fault in words. -/
def Fault.message : Fault → String
  | duplicate stage first =>
    "duplicate `#pragma " ++ stage.name ++ "` (first declared on line " ++ toString first ++ ")"
  | unknownPragma argument => "unknown pragma `" ++ String.ofList argument ++ "`"
  | entryInHeader => "`@entry` is not allowed in the shared header"
  | emptyBody => "stage body is empty; every stage needs an `@entry` function"
  | noEntry => "no `@entry` function in stage body"
  | manyEntries lines =>
    "found " ++ toString lines.length ++ " `@entry` functions (lines "
      ++ ", ".intercalate (lines.map toString) ++ "); exactly one is allowed"
  | badEntry line cause => "line " ++ toString line ++ ": " ++ cause.message

/-- What an error is about: one stage, or the file as a whole. -/
def SplitError.subject : Option Stage → String
  | some stage => stage.name ++ " stage"
  | none => "unified shader"

/-- The cause of a refusal in words. -/
def SplitError.message : SplitError → String
  | missingVersion => "no `#version` directive before the first stage pragma"
  | malformed stage lines fault =>
    "malformed " ++ subject stage ++ " (" ++ lines.text ++ "): " ++ fault.message
  | incomplete missing => "incomplete program: missing " ++ Stage.listNames missing ++ " stage"

end ShaderBundle
