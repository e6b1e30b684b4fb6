import ShaderBundle.Glsl.EntryPoint
import ShaderBundle.Headless.Module

/-!
# The module of a shader

What is handed on of a shader that was read and found sound: its types, its globals, and an entry
point with one argument for each piece that goes in and with one structure of the pieces that come
out. A piece of the interface keeps its own binding.

Types are put down where they are needed, an array behind its elements. Nothing is shared between
two uses of a type, and the members of a uniform block are not put down at all: who has a module
asks for the kind of a block, which does not depend on them.

## Main definitions

* `Ty.place` puts a type into an arena.
* `moduleOf` is the module of a shader.
-/

namespace ShaderBundle.Glsl

open Headless (Arena AddressSpace GlobalVariable Handle TypeInner)

/-- Makes types, one behind the other. -/
abbrev Typist := StateM Arena

/-- Puts a type down behind the others. -/
def place (inner : TypeInner) : Typist Handle := do
  let types ← get
  set (types.push inner)
  return types.types.length

/-- The kind of component, whatever its width. -/
def Scalar.kind : Scalar → Headless.ScalarKind
  | int => .sint
  | uint => .uint
  | float | double => .float
  | bool => .bool

/-- A number of components. -/
def vectorSize : Nat → Headless.VectorSize
  | 2 => .bi
  | 3 => .tri
  | _ => .quad

/-- The dimensions of an image. -/
def Dimension.ofImage : Dimension → Headless.ImageDimension
  | one => .one
  | two => .two
  | three => .three
  | cube => .cube

/-- Puts a type down, behind those it is made of. -/
def Ty.place : Ty → Typist Handle
  | scalar s => Glsl.place (.scalar s.kind)
  | vector size s => Glsl.place (.vector (vectorSize size) s.kind)
  | matrix columns rows _ => Glsl.place (.matrix (vectorSize columns) (vectorSize rows))
  | array element length => do
    let base ← element.place
    Glsl.place (.array base (match length with
      | some count => .constant count
      | none => .dynamic))
  | struct _ => Glsl.place (.struct [])
  | image form => Glsl.place (.image form.dimension.ofImage form.arrayed)
  | sampler _ => Glsl.place .sampler

/-- Where a global is kept. -/
def Space.address : Space → AddressSpace
  | uniform => .uniform
  | storage => .storage
  | handle => .handle
  | shared => .workGroup
  | pushConstant => .pushConstant
  | internal => .invocation

/-- How a piece is bound, without its interpolation. -/
def Binding.outside : Binding → Headless.Binding
  | location number _ _ => .location number
  | builtin _ => .builtIn

/-- Puts the type of a global down. -/
def GlobalRecord.place (record : GlobalRecord) : Typist GlobalVariable := do
  return { name? := record.name?, space := record.space.address, ty := ← record.ty.place }

/-- Puts the type of a piece down. -/
def Piece.place (piece : Piece) : Typist Headless.Value := do
  return {
    name? := some piece.name
    ty := ← piece.ty.place
    binding? := some piece.binding.outside }

/-- Puts the types of the interface down. A stage that writes nothing has no result. -/
def placeEntryPoint (inputs outputs : List Piece) : Typist Headless.EntryPoint := do
  let arguments ← inputs.mapM Piece.place
  match ← outputs.mapM Piece.place with
  | [] => return { arguments }
  | members => return { arguments, result? := some { ty := ← Glsl.place (.struct members) } }

/-- The module of a shader. -/
def moduleOf (s : Session) : Headless.Module :=
  let inputs := piecesOn s.structs s.crossings false
  let outputs := piecesOn s.structs s.crossings true
  let ((globals, entryPoint), types) := StateT.run (m := Id) (do
    return (← s.globals.mapM GlobalRecord.place, ← placeEntryPoint inputs outputs)) .empty
  { types, globals, entryPoints := [entryPoint] }

end ShaderBundle.Glsl
