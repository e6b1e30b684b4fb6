import ShaderBundle.Gl.Driver

/-!
# A scripted driver

A driver without a device. Its objects are numbers from one counter, and its other answers come from
a script.

## Main definitions

* `Gl.Script` holds the answers, `Gl.ScriptedState` also the counter.
* `Gl.scripted` is the driver.
-/

namespace ShaderBundle.Gl

/-- The answers of a scripted driver. -/
structure Script where
  /-- Whether shaders can be created. -/
  givesShaders : Bool := true
  /-- Whether programs can be created. -/
  givesPrograms : Bool := true
  /-- Whether shaders compile. -/
  compiles : Bool := true
  /-- Whether programs link. -/
  links : Bool := true
  /-- Whether programs are valid. -/
  validates : Bool := true
  /-- The log of every object. -/
  log : List UInt8 := []
  /-- The reported length of the log, if it is not the true one. -/
  logLength : Option Int := none
  /-- The uniforms of every program. -/
  uniforms : List ActiveUniform := []
  /-- The reported number of uniforms, if it is not the true one. -/
  uniformCount : Option Int := none
  /-- The reported room for the longest name, if it is not the true one. -/
  longestName : Option Int := none
  /-- The locations of uniforms. -/
  uniformLocations : List (Text × Int) := []
  /-- The locations of attributes. -/
  attributeLocations : List (Text × Int) := []
  /-- The error state. -/
  error : Nat := 0
  deriving DecidableEq, Repr

/-- The state of a scripted driver. -/
structure ScriptedState where
  /-- The answers in force. -/
  script : Script := {}
  /-- How many objects were made. -/
  counter : Nat := 0
  deriving DecidableEq, Repr

namespace Script

/-- The length of the log with its final zero. -/
def reportedLogLength (script : Script) : Int :=
  script.logLength.getD (Int.ofNat (script.log.length + 1))

/-- The room for the longest name with its final zero. -/
def reportedLongestName (script : Script) : Int :=
  script.longestName.getD
    (Int.ofNat ((script.uniforms.map fun uniform => uniform.name.length + 1).foldl max 0))

/-- The number of uniforms. -/
def reportedCount (script : Script) : Int :=
  script.uniformCount.getD (Int.ofNat script.uniforms.length)

/-- A uniform with its name cut to fit. -/
def describe (script : Script) (index room : Nat) : ActiveUniform :=
  match script.uniforms[index]? with
  | none => {}
  | some uniform => { uniform with name := uniform.name.take (room - 1) }

end Script

/-- A new object, or zero if there is none. -/
def ScriptedState.create (gives : Bool) (s : ScriptedState) : Nat × ScriptedState :=
  if gives then (s.counter + 1, { s with counter := s.counter + 1 }) else (0, s)

/-- The scripted driver. -/
def scripted : Driver ScriptedState where
  answer
    | .createShader _, s => s.create s.script.givesShaders
    | .createProgram, s => s.create s.script.givesPrograms
    | .compileStatus _, s => (s.script.compiles, s)
    | .linkStatus _, s => (s.script.links, s)
    | .validateStatus _, s => (s.script.validates, s)
    | .shaderLogLength _, s => (s.script.reportedLogLength, s)
    | .programLogLength _, s => (s.script.reportedLogLength, s)
    | .shaderLog _ room, s => (s.script.log.take (room - 1), s)
    | .programLog _ room, s => (s.script.log.take (room - 1), s)
    | .uniformLocation _ name, s => ((s.script.uniformLocations.lookup name).getD (-1), s)
    | .attributeLocation _ name, s => ((s.script.attributeLocations.lookup name).getD (-1), s)
    | .activeUniforms _, s => (s.script.reportedCount, s)
    | .longestUniformName _, s => (s.script.reportedLongestName, s)
    | .activeUniform _ index room, s => (s.script.describe index room, s)
    | .error, s => (s.script.error, s)
    | .shaderSource _ _, s | .compileShader _, s | .deleteShader _, s | .attachShader _ _, s
    | .detachShader _ _, s | .linkProgram _, s | .validateProgram _, s | .deleteProgram _, s
    | .useProgram _, s | .writeUniform _ _, s => ((), s)

end ShaderBundle.Gl
