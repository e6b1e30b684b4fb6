import ShaderBundle.Graphics.Backend
import ShaderBundle.Text.Lines
import ShaderBundle.Text.Search

/-!
# A scripted backend

A backend without a compiler, for rehearsals. It keeps a log of its calls, takes its refusals from a
script or from words in the sources, and hands out numbers from one counter.

## Main definitions

* `Scripted.Script` says which operations are refused.
* `Scripted.State` holds the script, the call log and the live objects.
* `Scripted.backend` is the backend, under the name `mock`.
-/

namespace ShaderBundle.Scripted

/-- Logs that make operations fail. -/
structure Script where
  /-- Refusals to compile, by stage. -/
  compileLogs : List (Stage × Text) := []
  /-- The refusal to create programs. -/
  createLog : Option Text := none
  /-- The refusal to link. -/
  linkLog : Option Text := none
  /-- The refusal to validate. -/
  validateLog : Option Text := none
  deriving DecidableEq, Repr

/-- What is kept of a compiled stage. -/
structure StageRecord where
  /-- Its name. -/
  id : StageId
  /-- The uniforms it declares. -/
  uniforms : List Text
  /-- Whether a program with it fails to link. -/
  failsLink : Bool
  /-- Whether a program with it fails to validate. -/
  failsValidation : Bool
  deriving DecidableEq, Repr

/-- What is kept of a program. -/
structure ProgramRecord where
  /-- Its name. -/
  id : ProgramId
  /-- The attached stages, in order. -/
  attached : List StageId := []
  /-- The names of its uniforms; the location of a name is its index. -/
  uniforms : List Text := []
  /-- Whether it fails to validate. -/
  failsValidation : Bool := false
  deriving DecidableEq, Repr

/-- The state of the backend. -/
structure State where
  /-- The refusals in force. -/
  script : Script := {}
  /-- How many numbers were handed out. -/
  counter : Nat := 0
  /-- The calls so far, in order. -/
  calls : List Call := []
  /-- The live stages. -/
  stages : List StageRecord := []
  /-- The live programs. -/
  programs : List ProgramRecord := []
  deriving DecidableEq, Repr

/-! ### Sources -/

/-- The word that makes the compiler crash. -/
def crashWord : Text := "DRIVER_CRASH".toList

/-- The word that makes a line a compile error. -/
def compileErrorWord : Text := "COMPILE_ERROR".toList

/-- The word that makes linking fail. -/
def linkErrorWord : Text := "LINK_ERROR".toList

/-- The word that makes validation fail. -/
def validateErrorWord : Text := "VALIDATE_ERROR".toList

/-- The log for a compile error on a line. -/
def compileErrorLog (line : Nat) : Text :=
  "0:".toList ++ decimal line ++ "(5): error: syntax error, unexpected IDENTIFIER\n".toList

/-- The log for a program that fails to link. -/
def linkErrorLog : Text := "error: LINK_ERROR: vertex and fragment interfaces differ".toList

/-- The uniform that a line declares. -/
def declaredUniform? (line : Text) : Option Text :=
  match Text.after? "uniform ".toList line.trim with
  | none => none
  | some rest =>
    match Text.words rest with
    | _ :: name :: _ => some (Text.dropEndWhile (· = ';') name)
    | _ => none

/-- The uniforms that a source declares. -/
def declaredUniforms (source : Text) : List Text :=
  source.lines.filterMap declaredUniform?

/-! ### Operations -/

namespace State

/-- The state after one more call is noted. -/
def note (s : State) (call : Call) : State :=
  { s with calls := s.calls ++ [call] }

/-- Changes the record of a program, if it is live. -/
def modifyProgram (s : State) (program : ProgramId) (f : ProgramRecord → ProgramRecord) : State :=
  { s with
    programs := s.programs.map fun record => if record.id = program then f record else record }

/-- The record of a program. -/
def program? (s : State) (program : ProgramId) : Option ProgramRecord :=
  s.programs.find? fun record => record.id = program

/-- The record of a stage. -/
def stage? (s : State) (stage : StageId) : Option StageRecord :=
  s.stages.find? fun record => record.id = stage

/-- Compiles a source that does not crash the compiler. -/
def compile (stage : Stage) (source : Text) (s : State) : Except Text StageId × State :=
  match s.script.compileLogs.lookup stage with
  | some log => (.error log, s)
  | none =>
    match source.lines.findIdx? (Text.hasPart compileErrorWord) with
    | some index => (.error (compileErrorLog (index + 1)), s)
    | none =>
      let id : StageId := ⟨s.counter + 1⟩
      (.ok id, { s with
        counter := s.counter + 1
        stages := s.stages ++ [{
          id
          uniforms := declaredUniforms source
          failsLink := Text.hasPart linkErrorWord source
          failsValidation := Text.hasPart validateErrorWord source }] })

/-- Whether the compiler crashes on a source. -/
def crashes (stage : Stage) (source : Text) (s : State) : Bool :=
  (s.script.compileLogs.lookup stage).isNone && Text.hasPart crashWord source

/-- Makes an empty program. -/
def create (s : State) : Except Text ProgramId × State :=
  match s.script.createLog with
  | some log => (.error log, s)
  | none =>
    let id : ProgramId := ⟨s.counter + 1⟩
    (.ok id, { s with counter := s.counter + 1, programs := s.programs ++ [{ id }] })

/-- The names of both lists, those of the second only if they are new. -/
def addNames (names : List Text) : List Text → List Text
  | [] => names
  | name :: rest => addNames (if names.contains name then names else names ++ [name]) rest

/-- Links the stages with a program, in order. -/
def linkStages (record : ProgramRecord) : List StageRecord → Except Text Unit × ProgramRecord
  | [] => (.ok (), record)
  | stage :: rest =>
    if stage.failsLink then (.error linkErrorLog, record)
    else linkStages { record with
      uniforms := addNames record.uniforms stage.uniforms
      failsValidation := record.failsValidation || stage.failsValidation } rest

/-- Links a program. -/
def link (program : ProgramId) (s : State) : Except Text Unit × State :=
  match s.script.linkLog with
  | some log => (.error log, s)
  | none =>
    match s.program? program with
    | none => (.ok (), s)
    | some record =>
      let (outcome, linked) := linkStages record (record.attached.filterMap s.stage?)
      (outcome, s.modifyProgram program fun _ => linked)

/-- Validates a program. -/
def validate (program : ProgramId) (s : State) : Except Text Unit :=
  match s.script.validateLog with
  | some log => .error log
  | none =>
    match s.program? program with
    | none => .ok ()
    | some record => if record.failsValidation then .error validateErrorWord else .ok ()

/-- The uniforms of a program. -/
def names (program : ProgramId) (s : State) : List Text :=
  match s.program? program with
  | none => []
  | some record => record.uniforms

end State

/-- The location of a vertex attribute, the same in all programs. -/
def attribute? (name : Text) : Option Location :=
  if name = "position".toList then some ⟨0⟩
  else if name = "normal".toList then some ⟨1⟩
  else none

/-- A call that is noted before it takes place. -/
def noted {α : Type} (call : Call) (f : State → α × State) : Job State α :=
  Job.step fun s => f (s.note call)

/-- The scripted backend. -/
def backend : Backend State where
  name := "mock"
  compile stage source := do
    noted (.compile stage) fun s => ((), s)
    let s ← get
    if s.crashes stage source then Job.crash else Job.step (State.compile stage source)
  deleteStage stage := noted (.deleteStage stage) fun s =>
    ((), { s with stages := s.stages.filter fun record => record.id ≠ stage })
  createProgram := noted .createProgram State.create
  attach program stage := noted (.attach program stage) fun s =>
    ((), s.modifyProgram program fun record =>
      { record with attached := record.attached ++ [stage] })
  detach program stage := noted (.detach program stage) fun s =>
    ((), s.modifyProgram program fun record =>
      { record with attached := record.attached.filter fun id => id ≠ stage })
  link program := noted (.link program) (State.link program)
  validate program := noted (.validate program) fun s => (s.validate program, s)
  deleteProgram program := noted (.deleteProgram program) fun s =>
    ((), { s with programs := s.programs.filter fun record => record.id ≠ program })
  uniformLocation program name := noted (.uniformLocation program name) fun s =>
    (((s.names program).idxOf? name).map Location.mk, s)
  attributeLocation program name := noted (.attributeLocation program name) fun s =>
    (attribute? name, s)
  activeUniforms program := noted (.activeUniforms program) fun s =>
    ((s.names program).zipIdx.map fun (name, index) => ⟨name, some ⟨index⟩, .other, 1⟩, s)
  use program := noted (.use program) fun s => ((), s)
  setUniform program location value := noted (.setUniform program location value) fun s => ((), s)

end ShaderBundle.Scripted
