import ShaderBundle.Text.Decimal

/-!
# Uniforms

A uniform is a value that a program reads and its user writes. Backends report the uniforms of a
program with their kinds and locations.

## Main definitions

* `Location` is the place of an active uniform or attribute; `Location.ofRaw?` reads a driver's
  answer, in which a negative number stands for none.
* `UniformKind` and `UniformValue`, with `UniformKind.accepts` between them.
* `UniformInfo` describes one active uniform.

## Implementation notes

Components of single precision are kept as their bit patterns: the library stores values and hands
them on, and it never computes with them.

A location is a number of 32 bits with a sign, and none if it is negative. What is left of that is a
natural number that is only compared.
-/

namespace ShaderBundle

/-- The place of an active uniform or attribute in a program. -/
structure Location where
  /-- The number the backend knows it by. -/
  index : Nat
  deriving DecidableEq, Repr

/-- The location a driver reports. A negative number means that the name is not active. -/
def Location.ofRaw? : Int → Option Location
  | .ofNat index => some ⟨index⟩
  | .negSucc _ => none

/-- The type of a uniform, as far as values are told apart by it. -/
inductive UniformKind where
  | int
  | uint
  | float
  | vec2
  | vec3
  | vec4
  | mat4
  | sampler2D
  | other
  deriving DecidableEq, Repr

/-- A number of single precision, by its bits. -/
abbrev Bits := UInt32

/-- A value for a uniform. Matrices go column by column. -/
inductive UniformValue where
  | int (value : Int32)
  | uint (value : UInt32)
  | float (value : Bits)
  | vec2 (value : Vector Bits 2)
  | vec3 (value : Vector Bits 3)
  | vec4 (value : Vector Bits 4)
  | mat4 (value : Vector Bits 16)
  deriving DecidableEq, Repr

/-- One active uniform of a program. -/
structure UniformInfo where
  /-- The name, without an index. -/
  name : Text
  /-- The location, if the name is active by itself. -/
  location : Option Location
  /-- The type of the uniform or, for an array, of its elements. -/
  kind : UniformKind
  /-- The length of an array, one for anything else. -/
  size : Nat
  deriving DecidableEq, Repr

namespace UniformKind

/-- Every kind. -/
def all : List UniformKind :=
  [int, uint, float, vec2, vec3, vec4, mat4, sampler2D, other]

/-- The kind as GLSL spells it. -/
def name : UniformKind → String
  | int => "int"
  | uint => "uint"
  | float => "float"
  | vec2 => "vec2"
  | vec3 => "vec3"
  | vec4 => "vec4"
  | mat4 => "mat4"
  | sampler2D => "sampler2D"
  | other => "other"

/-- Whether a value of this shape may be written to a uniform of the kind. Samplers take the number
of a texture unit. -/
def accepts : UniformKind → UniformValue → Bool
  | int, .int _ | sampler2D, .int _ => true
  | uint, .uint _ => true
  | float, .float _ => true
  | vec2, .vec2 _ => true
  | vec3, .vec3 _ => true
  | vec4, .vec4 _ => true
  | mat4, .mat4 _ => true
  | _, _ => false

/-- No value may be written to a uniform of an unknown kind. -/
@[simp] theorem accepts_other (value : UniformValue) : accepts other value = false := by
  cases value <;> rfl

end UniformKind

end ShaderBundle
