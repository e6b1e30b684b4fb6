import ShaderBundle.Text.Blank

/-!
# Pipeline stages

A stage of the programmable pipeline is named in a file by the argument of its pragma.

## Main definitions

* `Stage` lists the stages in pipeline order; `Stage.all` is the list.
* `Stage.name` is the spelling in a pragma and `Stage.ofName?` its inverse.
* `Stage.isRequired` singles out the stages that every file has to have.
-/

namespace ShaderBundle

/-- A programmable stage of the graphics pipeline, in pipeline order. -/
inductive Stage where
  | vertex
  | tessControl
  | tessEval
  | geometry
  | fragment
  | compute
  deriving DecidableEq, Repr

namespace Stage

/-- Every stage, in pipeline order. -/
def all : List Stage :=
  [vertex, tessControl, tessEval, geometry, fragment, compute]

/-- The stage as a pragma spells it. -/
def name : Stage → String
  | vertex => "vertex"
  | tessControl => "tess_control"
  | tessEval => "tess_eval"
  | geometry => "geometry"
  | fragment => "fragment"
  | compute => "compute"

/-- The stage that a pragma's argument names. Letter case matters. -/
def ofName? (argument : Text) : Option Stage :=
  all.find? fun stage => stage.name.toList == argument

/-- Place in the pipeline, from zero. -/
def index (stage : Stage) : Nat :=
  all.idxOf stage

/-- A vertex and a fragment stage are present in every complete file. -/
def isRequired : Stage → Bool
  | vertex | fragment => true
  | _ => false

/-- The stage names, separated by a comma and a space. -/
def listNames (stages : List Stage) : String :=
  ", ".intercalate (stages.map name)

theorem mem_all (stage : Stage) : stage ∈ all := by
  cases stage <;> decide

/-- Reading back what was written. -/
theorem ofName?_name (stage : Stage) : ofName? stage.name.toList = some stage := by
  cases stage <;> simp [ofName?, all, name]

end Stage

end ShaderBundle
