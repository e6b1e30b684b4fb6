import ShaderBundle.Bundle.Directive
import ShaderBundle.Bundle.Fault

/-!
# The outline of a file

The outline is what the pragmas of a file say: which stages it has, where each opens, and the
first pragma that is out of place.

## Main definitions

* `Marker` is a line that opens a stage.
* `Outline` holds the markers in file order and the first structural problem.
* `Outline.ofLines` reads the outline off the masked lines.
-/

namespace ShaderBundle

/-- How strictly pragmas are read. -/
structure SplitOptions where
  /-- Let the pragmas of the GLSL compiler through instead of refusing them. -/
  nativePragmas : Bool := false
  deriving DecidableEq, Repr

/-- A line that opens a stage. -/
structure Marker where
  /-- The stage that begins. -/
  stage : Stage
  /-- The line, counted from zero. -/
  line : Nat
  deriving DecidableEq, Repr

/-- The stages of a file and the first problem among its pragmas. -/
structure Outline where
  /-- The opening lines, in file order, one per stage. -/
  markers : List Marker := []
  /-- The first repeated or unknown pragma. -/
  problem : Option SplitError := none
  deriving DecidableEq, Repr

namespace Outline

/-- The outline with a problem, unless there was one before. -/
def report (outline : Outline) (error : SplitError) : Outline :=
  { outline with problem := outline.problem.or (some error) }

/-- The outline after one more pragma, on the line with the given index. -/
def addPragma (options : SplitOptions) (outline : Outline) (line : Nat) (argument : Text) :
    Outline :=
  match Stage.ofName? argument with
  | some stage =>
    match outline.markers.find? fun marker => marker.stage = stage with
    | some first =>
      outline.report (.malformed (some stage) (.spanning (first.line + 1) (line + 1))
        (.duplicate stage (first.line + 1)))
    | none => { outline with markers := outline.markers ++ [⟨stage, line⟩] }
  | none =>
    if options.nativePragmas && Directive.isForCompiler argument then outline
    else outline.report (.malformed none (.single (line + 1)) (.unknownPragma argument))

/-- The outline after one more line. -/
def addLine (options : SplitOptions) (outline : Outline) (line : Nat) (content : Text) :
    Outline :=
  match Directive.pragma? content with
  | some argument => outline.addPragma options line argument
  | none => outline

/-- Reads lines from the one with index `line` on. -/
def extend (options : SplitOptions) (outline : Outline) (line : Nat) : List Text → Outline
  | [] => outline
  | content :: rest => extend options (outline.addLine options line content) (line + 1) rest

/-- The outline of a file, from its masked lines. -/
def ofLines (options : SplitOptions) (masked : List Text) : Outline :=
  extend options {} 0 masked

/-- The required stages that no line opens. -/
def missing (outline : Outline) : List Stage :=
  Stage.all.filter fun stage =>
    stage.isRequired && !outline.markers.any fun marker => marker.stage = stage

end Outline

end ShaderBundle
