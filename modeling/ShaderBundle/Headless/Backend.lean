import ShaderBundle.Headless.Layout
import ShaderBundle.Headless.Link

/-!
# The headless backend

A backend without a graphics card. It compiles with a front end that checks sources and nothing
more, it links by comparing interfaces, and it keeps the values written to uniforms so that they
can be read back.

## Main definitions

* `State` is what the backend remembers.
* `backend front` is the backend over a front end.

## Implementation notes

The front end is a parameter: nothing here depends on what it accepts. Stages and programs draw
their numbers from one counter, and a refused stage draws none; the names of its varyings stay
remembered all the same.

The counter is a word of 32 bits in the program and a natural number here. The two agree until 2 ^
32 stages and programs were made by one backend, at which the word has no next number.
-/

namespace ShaderBundle.Headless

/-- What is known of a program. -/
structure ProgramRecord where
  /-- What the backend calls it. -/
  id : ProgramId
  /-- The attached stages, deleted ones included. -/
  attached : List StageId := []
  /-- The uniforms at the last successful link. -/
  uniforms : List UniformInfo := []
  /-- The attributes at the last successful link. -/
  attributes : List (Text × Location) := []
  /-- Whether it was ever linked. -/
  linked : Bool := false
  deriving DecidableEq, Repr

/-- A value that was written to a uniform. -/
structure Stored where
  /-- The program written to. -/
  program : ProgramId
  /-- The uniform written to. -/
  location : Location
  /-- What was written. -/
  value : UniformValue
  deriving DecidableEq, Repr

/-- What the backend remembers. -/
structure State where
  /-- How many numbers were handed out. -/
  counter : Nat := 0
  /-- The names of varyings seen so far. -/
  varyings : Varyings := {}
  /-- The live stages. -/
  stages : List Compiled := []
  /-- The live programs. -/
  programs : List ProgramRecord := []
  /-- The last value of each uniform that was written. -/
  values : List Stored := []
  /-- The current program. -/
  current : Option ProgramId := none
  deriving DecidableEq, Repr

namespace State

/-- The record of a program. -/
def program? (s : State) (program : ProgramId) : Option ProgramRecord :=
  s.programs.find? fun record => record.id = program

/-- A live stage. -/
def stage? (s : State) (stage : StageId) : Option Compiled :=
  s.stages.find? fun compiled => compiled.id = stage

/-- Changes the record of a program, if it is live. -/
def modifyProgram (s : State) (program : ProgramId) (f : ProgramRecord → ProgramRecord) : State :=
  { s with
    programs := s.programs.map fun record => if record.id = program then f record else record }

/-- The last value written to a uniform. -/
def value? (s : State) (program : ProgramId) (location : Location) : Option UniformValue :=
  (s.values.find? fun stored => stored.program = program ∧ stored.location = location).map
    Stored.value

/-- Whether the front end reads stages of a kind. -/
def supports : Stage → Bool
  | .vertex | .fragment | .compute => true
  | .tessControl | .tessEval | .geometry => false

/-- The refusal of a stage that the front end does not read. -/
def unsupportedLog (stage : Stage) : Text :=
  "ERROR: ".toList ++ stage.name.toList ++
    " stages are not supported by the naga backend".toList

/-- Compiles a source. -/
def compile (front : FrontEnd) (stage : Stage) (source : Text) (s : State) :
    Except Text StageId × State :=
  if supports stage then
    let (laidOut, varyings) := assign s.varyings stage (liftVersion source)
    match front stage laidOut with
    | .error log => (.error log, { s with varyings })
    | .ok module =>
      let id : StageId := ⟨s.counter + 1⟩
      (.ok id, { s with
        varyings
        counter := s.counter + 1
        stages := s.stages ++ [{ id, stage, module }] })
  else (.error (unsupportedLog stage), s)

/-- Makes an empty program. -/
def create (s : State) : ProgramId × State :=
  let id : ProgramId := ⟨s.counter + 1⟩
  (id, { s with counter := s.counter + 1, programs := s.programs ++ [{ id }] })

/-- Links a program. A program that does not link stays what it was. -/
def link (program : ProgramId) (s : State) : Except LinkFault Unit × State :=
  match s.program? program with
  | none => (.error (.unknownProgram program), s)
  | some record =>
    let stages := record.attached.filterMap s.stage?
    match checkStages stages with
    | .error found => (.error found, s)
    | .ok () => (.ok (), s.modifyProgram program fun record =>
        { record with
          uniforms := listUniforms stages
          attributes := listAttributes stages
          linked := true })

/-- Validates a program. -/
def validate (program : ProgramId) (s : State) : Except Text Unit :=
  match s.program? program with
  | none => .error ("program ".toList ++ decimal program.raw ++ " does not exist".toList)
  | some record =>
    if record.linked then .ok () else .error "program has not been linked".toList

/-- Deletes a program with its values. It is not left current. -/
def deleteProgram (program : ProgramId) (s : State) : State :=
  { s with
    programs := s.programs.filter fun record => record.id ≠ program
    values := s.values.filter fun stored => stored.program ≠ program
    current := if s.current = some program then none else s.current }

/-- The uniforms of a program. -/
def uniforms (program : ProgramId) (s : State) : List UniformInfo :=
  match s.program? program with
  | none => []
  | some record => record.uniforms

/-- The location of a uniform. -/
def uniformLocation (program : ProgramId) (name : Text) (s : State) : Option Location :=
  match (s.uniforms program).find? fun info => info.name == name with
  | none => none
  | some info => info.location

/-- The location of an attribute. -/
def attributeLocation (program : ProgramId) (name : Text) (s : State) : Option Location :=
  match s.program? program with
  | none => none
  | some record => record.attributes.lookup name

/-- The kind of the uniform at a location. -/
def kindAt? (program : ProgramId) (location : Location) (s : State) : Option UniformKind :=
  ((s.uniforms program).find? fun info => info.location = some location).map UniformInfo.kind

/-- Whether values of this shape are kept for uniforms of a kind. Those of unknown kind keep
anything. -/
def keeps (kind : UniformKind) (value : UniformValue) : Bool :=
  kind.accepts value || kind = .other

/-- Keeps a value in place of the one that was written before. -/
def store (program : ProgramId) (location : Location) (value : UniformValue) (s : State) : State :=
  { s with values :=
      { program, location, value } ::
        s.values.filter fun stored => ¬(stored.program = program ∧ stored.location = location) }

/-- Writes a uniform. Values of another shape and unknown locations are passed over. -/
def setUniform (program : ProgramId) (location : Location) (value : UniformValue) (s : State) :
    State :=
  match s.kindAt? program location with
  | none => s
  | some kind => if keeps kind value then s.store program location value else s

end State

/-- The outcome with its fault put into words. -/
def worded (outcome : Except LinkFault Unit) : Except Text Unit :=
  match outcome with
  | .ok () => .ok ()
  | .error found => .error found.message

/-- The backend over a front end. -/
def backend (front : FrontEnd) : Backend State where
  name := "naga"
  compile stage source := Job.step (State.compile front stage source)
  deleteStage stage := Job.change fun s =>
    { s with stages := s.stages.filter fun compiled => compiled.id ≠ stage }
  createProgram := Job.step fun s => (.ok s.create.1, s.create.2)
  attach program stage := Job.change fun s => s.modifyProgram program fun record =>
    { record with attached := record.attached ++ [stage] }
  detach program stage := Job.change fun s => s.modifyProgram program fun record =>
    { record with attached := record.attached.filter fun id => id ≠ stage }
  link program := Job.step fun s => (worded (s.link program).1, (s.link program).2)
  validate program := Job.step fun s => (s.validate program, s)
  deleteProgram program := Job.change (State.deleteProgram program)
  uniformLocation program name := Job.step fun s => (s.uniformLocation program name, s)
  attributeLocation program name := Job.step fun s => (s.attributeLocation program name, s)
  activeUniforms program := Job.step fun s => (s.uniforms program, s)
  use program := Job.change fun s => { s with current := program }
  setUniform program location value := Job.change (State.setUniform program location value)

end ShaderBundle.Headless
