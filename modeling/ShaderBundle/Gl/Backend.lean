import ShaderBundle.Gl.Driver
import ShaderBundle.Graphics.Backend
import ShaderBundle.Text.Search
import ShaderBundle.Text.Utf8

/-!
# The OpenGL backend

The operations of a backend, carried out by requests to an OpenGL driver.

## Main definitions

* `Gl.State` is the state of a driver with the program that the backend believes to be current.
* `Gl.backend` is the backend.

## Implementation notes

Uniforms are written to the current program. To write one of another program, the backend makes
that one current and goes back afterwards, so `current` stays what it was.

Sources and names go to the driver as strings that end with a zero. Neither may hold one.
-/

namespace ShaderBundle.Gl

/-- The state of the backend. -/
structure State (σ : Type) where
  /-- The program in use. -/
  current : Option ProgramId := none
  /-- The state of the driver. -/
  driver : σ

variable {σ : Type}

/-- Puts a request to the driver. -/
def ask (driver : Driver σ) (request : Request) : Job (State σ) request.Answer :=
  Job.step fun s =>
    let (answer, after) := driver.answer request s.driver
    (answer, { s with driver := after })

/-- Gives an order to the driver. -/
def order (driver : Driver σ) (request : Request) : Job (State σ) Unit := do
  let _ ← ask driver request
  return ()

/-- The text in a buffer: what precedes the first zero. -/
def bufferText (bytes : List UInt8) : Text :=
  Utf8.decodeLossy (bytes.takeWhile (· ≠ 0))

/-- The room for a text of the length that a driver reports. -/
def room (length : Int) : Nat :=
  length.toNat + 1

/-- The log of a shader. -/
def shaderLog (driver : Driver σ) (shader : Nat) : Job (State σ) Text := do
  let length ← ask driver (.shaderLogLength shader)
  let bytes ← ask driver (.shaderLog shader (room length))
  return bufferText bytes

/-- The log of a program. -/
def programLog (driver : Driver σ) (program : Nat) : Job (State σ) Text := do
  let length ← ask driver (.programLogLength program)
  let bytes ← ask driver (.programLog program (room length))
  return bufferText bytes

/-- The refusal of a source with a zero in it. -/
def zeroInSource (position : Nat) : Text :=
  "shader source contains a NUL byte at ".toList ++ decimal position

/-- The refusal when a driver gives no shader. -/
def noShader (stage : Stage) : Text :=
  "unable to create ".toList ++ stage.name.toList ++ " shader object".toList

/-- The refusal when a driver gives no program. -/
def noProgram : Text := "unable to create program object".toList

/-- Compiles a stage. A shader that does not compile is deleted. -/
def compile (driver : Driver σ) (stage : Stage) (source : Text) :
    Job (State σ) (Except Text StageId) := do
  if source.contains '\x00' then
    return .error (zeroInSource (Text.size (source.takeWhile (· ≠ '\x00'))))
  let shader : Nat ← ask driver (.createShader (stageType stage))
  if shader = 0 then return .error (noShader stage)
  order driver (.shaderSource shader source)
  order driver (.compileShader shader)
  let compiled : Bool ← ask driver (.compileStatus shader)
  if compiled then return .ok ⟨shader⟩
  let log ← shaderLog driver shader
  order driver (.deleteShader shader)
  return .error log

/-- Makes an empty program. -/
def createProgram (driver : Driver σ) : Job (State σ) (Except Text ProgramId) := do
  let program : Nat ← ask driver .createProgram
  return if program = 0 then .error noProgram else .ok ⟨program⟩

/-- Gives an order about a program and reads off whether it went well. -/
def attempt (driver : Driver σ) (program : ProgramId) (request : Request)
    (status : Job (State σ) Bool) : Job (State σ) (Except Text Unit) := do
  order driver request
  if ← status then return .ok ()
  return .error (← programLog driver program.raw)

/-- The number for a program or for none. -/
def programNumber : Option ProgramId → Nat
  | none => 0
  | some program => program.raw

/-- Makes a program current. -/
def use (driver : Driver σ) (program : Option ProgramId) : Job (State σ) Unit := do
  order driver (.useProgram (programNumber program))
  Job.change fun s => { s with current := program }

/-- Deletes a program, which is not left current. -/
def deleteProgram (driver : Driver σ) (program : ProgramId) : Job (State σ) Unit := do
  let s ← get
  if s.current = some program then use driver none
  order driver (.deleteProgram program.raw)

/-- The location of a uniform. -/
def uniformLocation (driver : Driver σ) (program : ProgramId) (name : Text) :
    Job (State σ) (Option Location) := do
  if name.contains '\x00' then return none
  let answer ← ask driver (.uniformLocation program.raw name)
  return Location.ofRaw? answer

/-- The location of an attribute. -/
def attributeLocation (driver : Driver σ) (program : ProgramId) (name : Text) :
    Job (State σ) (Option Location) := do
  if name.contains '\x00' then return none
  let answer ← ask driver (.attributeLocation program.raw name)
  return Location.ofRaw? answer

/-- A name without first-element indices at its end. The name is given reversed. -/
def dropFirstIndices : Text → Text
  | ']' :: '0' :: '[' :: rest => dropFirstIndices rest
  | name => name

/-- The name of a uniform array, which drivers report as that of its first element. -/
def arrayName (name : Text) : Text :=
  (dropFirstIndices name.reverse).reverse

/-- One uniform of a program. -/
def activeUniform (driver : Driver σ) (program : ProgramId) (index room : Nat) :
    Job (State σ) UniformInfo := do
  let uniform : ActiveUniform ← ask driver (.activeUniform program.raw index room)
  let name := arrayName (Utf8.decodeLossy uniform.name)
  let location ← uniformLocation driver program name
  return { name, location, kind := uniformKind uniform.type, size := max uniform.size.toNat 1 }

/-- The uniforms of a program from an index on, as many as are left. -/
def activeUniformsFrom (driver : Driver σ) (program : ProgramId) (room : Nat) :
    Nat → Nat → Job (State σ) (List UniformInfo)
  | 0, _ => pure []
  | left + 1, index => do
    let uniform ← activeUniform driver program index room
    return uniform :: (← activeUniformsFrom driver program room left (index + 1))

/-- The uniforms of a program. -/
def activeUniforms (driver : Driver σ) (program : ProgramId) :
    Job (State σ) (List UniformInfo) := do
  let count : Int ← ask driver (.activeUniforms program.raw)
  let longest : Int ← ask driver (.longestUniformName program.raw)
  activeUniformsFrom driver program (max longest 1).toNat count.toNat 0

/-- Writes a uniform of any program. -/
def setUniform (driver : Driver σ) (program : ProgramId) (location : Location)
    (value : UniformValue) : Job (State σ) Unit := do
  let s ← get
  if s.current ≠ some program then order driver (.useProgram program.raw)
  order driver (.writeUniform location value)
  order driver .error
  if s.current ≠ some program then order driver (.useProgram (programNumber s.current))

/-- The backend over a driver. -/
def backend (driver : Driver σ) : Backend (State σ) where
  name := "gl"
  compile := compile driver
  deleteStage stage := order driver (.deleteShader stage.raw)
  createProgram := createProgram driver
  attach program stage := order driver (.attachShader program.raw stage.raw)
  detach program stage := order driver (.detachShader program.raw stage.raw)
  link program :=
    attempt driver program (.linkProgram program.raw) (ask driver (.linkStatus program.raw))
  validate program :=
    attempt driver program (.validateProgram program.raw) (ask driver (.validateStatus program.raw))
  deleteProgram := deleteProgram driver
  uniformLocation := uniformLocation driver
  attributeLocation := attributeLocation driver
  activeUniforms := activeUniforms driver
  use := use driver
  setUniform := setUniform driver

end ShaderBundle.Gl
