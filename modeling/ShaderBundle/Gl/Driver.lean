import ShaderBundle.Bundle.Stage
import ShaderBundle.Graphics.Uniform

/-!
# OpenGL drivers

A driver of OpenGL is whatever answers the requests listed here. Nothing is assumed about its
answers: creating an object may give zero, a status may be false, a log may be of any length and in
any encoding.

## Main definitions

* `Gl.Request` lists the requests, `Gl.Request.Answer` the type of each answer.
* `Gl.Driver σ` answers requests over a state `σ`.
* `Gl.Exchange` is a request with its answer; `Gl.Driver.recording` keeps the exchanges.

## Implementation notes

A log or a name is copied into a buffer of a given size, as much of it as leaves room for a final
zero. The answer holds the copied bytes without that zero.

Names, kinds and places are numbers without a bound here, as a driver gives and takes them back;
counts and lengths are integers, since a driver may answer with a negative one.
-/

namespace ShaderBundle.Gl

/-- A question to a driver, or an order. -/
inductive Request where
  | createShader (type : Nat)
  | shaderSource (shader : Nat) (source : Text)
  | compileShader (shader : Nat)
  | compileStatus (shader : Nat)
  | shaderLogLength (shader : Nat)
  | shaderLog (shader room : Nat)
  | deleteShader (shader : Nat)
  | createProgram
  | attachShader (program shader : Nat)
  | detachShader (program shader : Nat)
  | linkProgram (program : Nat)
  | linkStatus (program : Nat)
  | validateProgram (program : Nat)
  | validateStatus (program : Nat)
  | programLogLength (program : Nat)
  | programLog (program room : Nat)
  | deleteProgram (program : Nat)
  | uniformLocation (program : Nat) (name : Text)
  | attributeLocation (program : Nat) (name : Text)
  | activeUniforms (program : Nat)
  | longestUniformName (program : Nat)
  | activeUniform (program index room : Nat)
  | useProgram (program : Nat)
  | writeUniform (location : Location) (value : UniformValue)
  | error
  deriving DecidableEq, Repr

/-- A uniform as a driver describes it. -/
structure ActiveUniform where
  /-- The bytes of the name. -/
  name : List UInt8 := []
  /-- The number for its type. -/
  type : Nat := 0
  /-- The length of an array. -/
  size : Int := 0
  deriving DecidableEq, Repr

/-- The type of a request's answer. -/
def Request.Answer : Request → Type
  | createShader _ | createProgram | error => Nat
  | compileStatus _ | linkStatus _ | validateStatus _ => Bool
  | shaderLogLength _ | programLogLength _ | uniformLocation _ _ | attributeLocation _ _
  | activeUniforms _ | longestUniformName _ => Int
  | shaderLog _ _ | programLog _ _ => List UInt8
  | activeUniform _ _ _ => ActiveUniform
  | shaderSource _ _ | compileShader _ | deleteShader _ | attachShader _ _ | detachShader _ _
  | linkProgram _ | validateProgram _ | deleteProgram _ | useProgram _ | writeUniform _ _ => Unit

/-- Something that answers requests. -/
structure Driver (σ : Type) where
  /-- The answer to a request, and the state afterwards. -/
  answer : (request : Request) → σ → request.Answer × σ

/-- A request with its answer. -/
structure Exchange where
  /-- The request. -/
  request : Request
  /-- The answer. -/
  answer : request.Answer

/-- The driver, with its exchanges kept in order. -/
def Driver.recording {σ : Type} (driver : Driver σ) : Driver (List Exchange × σ) where
  answer request state :=
    let (answer, after) := driver.answer request state.2
    (answer, state.1 ++ [⟨request, answer⟩], after)

/-! ### Numbers of the standard -/

/-- The number for a kind of shader. -/
def stageType : Stage → Nat
  | .fragment => 0x8B30
  | .vertex => 0x8B31
  | .geometry => 0x8DD9
  | .tessEval => 0x8E87
  | .tessControl => 0x8E88
  | .compute => 0x91B9

/-- The numbers for types of uniforms. -/
def uniformTypes : List (Nat × UniformKind) :=
  [(0x1404, .int), (0x1405, .uint), (0x1406, .float), (0x8B50, .vec2), (0x8B51, .vec3),
    (0x8B52, .vec4), (0x8B5C, .mat4), (0x8B5E, .sampler2D)]

/-- The kind of uniform that a number stands for. -/
def uniformKind (type : Nat) : UniformKind :=
  (uniformTypes.lookup type).getD .other

end ShaderBundle.Gl
