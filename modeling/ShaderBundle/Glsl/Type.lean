import ShaderBundle.Graphics.Uniform
import ShaderBundle.Text.Search

/-!
# Types of GLSL

## Main definitions

* `Scalar`, `Image` and `Ty` are the types. A structure is named by its place in the list of the
  structures that a shader declares.
* `Ty.ofWord?` is the type that a reserved word names.
* `Ty.show` spells a type out in the way diagnostics do.

## Implementation notes

Combined samplers are no types here: the front end wants a texture and a sampler.
-/

namespace ShaderBundle.Glsl

/-- The type of one component. -/
inductive Scalar where
  | int
  | uint
  | float
  | double
  | bool
  deriving DecidableEq, Repr

/-- The dimensions of an image. -/
inductive Dimension where
  | one
  | two
  | three
  | cube
  deriving DecidableEq, Repr

/-- How an image is accessed. -/
inductive ImageAccess where
  | sampled (multi : Bool)
  | storage
  deriving DecidableEq, Repr

/-- The type of an image. -/
structure Image where
  /-- The type of the components that are read. -/
  scalar : Scalar
  /-- The dimensions. -/
  dimension : Dimension
  /-- Whether there are layers. -/
  arrayed : Bool
  /-- How it is accessed. -/
  access : ImageAccess
  deriving DecidableEq, Repr

/-- A type. -/
inductive Ty where
  | scalar (s : Scalar)
  | vector (size : Nat) (s : Scalar)
  | matrix (columns rows : Nat) (s : Scalar)
  | array (element : Ty) (length : Option Nat)
  | struct (index : Nat)
  | image (form : Image)
  | sampler (comparison : Bool)
  deriving DecidableEq, Repr

/-- A structure or a block: its name and its members. -/
structure Struct where
  /-- The name. -/
  name : Text
  /-- The members, in order. -/
  members : List (Text × Ty)
  /-- Whether variables can hold its values. -/
  constructible : Bool
  /-- Whether its values can be handed to a shader from outside. -/
  shareable : Bool
  deriving DecidableEq, Repr

/-! ### Reserved words -/

/-- The part of a word before and behind the first occurrence of another. -/
def splitAround? (middle : Text) : Text → Option (Text × Text)
  | [] => none
  | c :: rest =>
    if middle.isPrefixOf (c :: rest) then some ([], (c :: rest).drop middle.length)
    else (splitAround? middle rest).map fun (before, behind) => (c :: before, behind)

/-- The component type that the front of a vector or matrix type asks for. -/
def Scalar.ofFront? : Text → Option Scalar
  | [] => some float
  | ['b'] => some bool
  | ['i'] => some int
  | ['u'] => some uint
  | ['d'] => some double
  | _ => none

/-- A number of components. -/
def size? : Char → Option Nat
  | '2' => some 2
  | '3' => some 3
  | '4' => some 4
  | _ => none

/-- The vector type of a word. -/
def Ty.ofVectorWord? (word : Text) : Option Ty :=
  match splitAround? "vec".toList word with
  | some (front, [n]) => return .vector (← size? n) (← Scalar.ofFront? front)
  | _ => none

/-- The matrix type of a word. -/
def Ty.ofMatrixWord? (word : Text) : Option Ty :=
  match splitAround? "mat".toList word with
  | some (front, [n]) => return .matrix (← size? n) (← size? n) (← Scalar.ofFront? front)
  | some (front, [c, 'x', r]) => return .matrix (← size? c) (← size? r) (← Scalar.ofFront? front)
  | _ => none

/-- The component type that the front of an image type asks for. -/
def Scalar.ofImageFront? : Text → Option Scalar
  | [] => some float
  | ['i'] => some int
  | ['u'] => some uint
  | _ => none

/-- The dimensions, layers and samples that the end of a texture type asks for. -/
def textureForms : List (String × Dimension × Bool × Bool) :=
  [("1D", .one, false, false), ("1DArray", .one, true, false), ("2D", .two, false, false),
    ("2DArray", .two, true, false), ("2DMS", .two, false, true), ("2DMSArray", .two, true, true),
    ("3D", .three, false, false), ("Cube", .cube, false, false), ("CubeArray", .cube, true, false)]

/-- The texture type of a word. -/
def Ty.ofTextureWord? (word : Text) : Option Ty := do
  let (front, form) ← splitAround? "texture".toList word
  let scalar ← Scalar.ofImageFront? front
  let (dimension, arrayed, multi) ← textureForms.lookup (String.ofList form)
  return .image { scalar, dimension, arrayed, access := .sampled multi }

/-- The storage image type of a word. -/
def Ty.ofImageWord? (word : Text) : Option Ty := do
  let (front, form) ← splitAround? "image".toList word
  let scalar ← Scalar.ofImageFront? front
  let (dimension, arrayed, multi) ← textureForms.lookup (String.ofList form)
  if multi || dimension = .cube then none
  else return .image { scalar, dimension, arrayed, access := .storage }

/-- The types with a word of their own. -/
def namedTypes : List (String × Ty) :=
  [("bool", .scalar .bool), ("float", .scalar .float), ("double", .scalar .double),
    ("int", .scalar .int), ("uint", .scalar .uint), ("sampler", .sampler false),
    ("samplerShadow", .sampler true)]

/-- The type that a reserved word names. -/
def Ty.ofWord? (word : Text) : Option Ty :=
  namedTypes.lookup (String.ofList word) <|> ofVectorWord? word <|> ofMatrixWord? word <|>
    ofTextureWord? word <|> ofImageWord? word

/-! ### Diagnostics -/

/-- A component type spelled out. -/
def Scalar.show (s : Scalar) : String :=
  let (kind, width) := match s with
    | int => ("Sint", "4")
    | uint => ("Uint", "4")
    | float => ("Float", "4")
    | double => ("Float", "8")
    | bool => ("Bool", "1")
  "Scalar \x7b kind: " ++ kind ++ ", width: " ++ width ++ " \x7d"

/-- The kind of component alone. -/
def Scalar.showKind : Scalar → String
  | int => "Sint"
  | uint => "Uint"
  | float | double => "Float"
  | bool => "Bool"

/-- A number of components spelled out. -/
def showSize : Nat → String
  | 2 => "Bi"
  | 3 => "Tri"
  | _ => "Quad"

/-- Dimensions spelled out. -/
def Dimension.show : Dimension → String
  | one => "D1"
  | two => "D2"
  | three => "D3"
  | cube => "Cube"

/-- A truth value spelled out. -/
def showBool (b : Bool) : String :=
  if b then "true" else "false"

/-- An image type spelled out. -/
def Image.show (image : Image) : String :=
  let access := match image.access with
    | .sampled multi =>
      "Sampled \x7b kind: " ++ image.scalar.showKind ++ ", multi: " ++ showBool multi ++ " \x7d"
    | .storage => "Storage \x7b format: R8Uint, access: StorageAccess(LOAD | STORE) \x7d"
  "Image \x7b dim: " ++ image.dimension.show ++ ", arrayed: " ++ showBool image.arrayed ++
    ", class: " ++ access ++ " \x7d"

/-- A type spelled out. Structures and arrays are abridged. -/
def Ty.show : Ty → String
  | scalar s => "Scalar(" ++ s.show ++ ")"
  | vector size s => "Vector \x7b size: " ++ showSize size ++ ", scalar: " ++ s.show ++ " \x7d"
  | matrix columns rows s =>
    "Matrix \x7b columns: " ++ showSize columns ++ ", rows: " ++ showSize rows ++ ", scalar: " ++
      s.show ++ " \x7d"
  | array _ _ => "Array"
  | struct _ => "Struct"
  | image form => form.show
  | sampler comparison => "Sampler \x7b comparison: " ++ showBool comparison ++ " \x7d"

/-! ### Components -/

/-- Whether arithmetic is defined on components. -/
def Scalar.isNumeric : Scalar → Bool
  | bool => false
  | _ => true

/-- Whether components are floating-point numbers. -/
def Scalar.isFloat : Scalar → Bool
  | float | double => true
  | _ => false

/-- Whether components are whole numbers. -/
def Scalar.isWhole : Scalar → Bool
  | int | uint => true
  | _ => false

/-- Where a component type stands among those that convert upwards implicitly. -/
def Scalar.rank? : Scalar → Option Nat
  | int => some 0
  | uint => some 1
  | float => some 2
  | double => some 3
  | bool => none

/-- Whether one component type converts to another without being asked. -/
def Scalar.convertsTo (source target : Scalar) : Bool :=
  match source.rank?, target.rank? with
  | some low, some high => low < high
  | _, _ => false

/-- The component type of a scalar, vector or matrix. -/
def Ty.component? : Ty → Option Scalar
  | scalar s | vector _ s | matrix _ _ s => some s
  | _ => none

/-- The type with another component type. -/
def Ty.withComponent (s : Scalar) : Ty → Ty
  | scalar _ => scalar s
  | vector size _ => vector size s
  | matrix columns rows _ => matrix columns rows s
  | other => other

/-- The type after its components were converted to those of a target, if they convert. -/
def Ty.converted (target : Scalar) (ty : Ty) : Ty :=
  match ty.component? with
  | some s => if s.convertsTo target then ty.withComponent target else ty
  | none => ty

/-- Whether variables can hold values of the type. -/
def Ty.isConstructible (structs : List Struct) : Ty → Bool
  | scalar _ | vector _ _ | matrix _ _ _ => true
  | array element length => length.isSome && element.isConstructible structs
  | struct index => (structs[index]?.map Struct.constructible).getD false
  | image _ | sampler _ => false

/-- Whether values of the type can be handed to a shader from outside. -/
def Ty.isShareable (structs : List Struct) : Ty → Bool
  | scalar s | vector _ s | matrix _ _ s => s.isNumeric
  | array element _ => element.isShareable structs
  | struct index => (structs[index]?.map Struct.shareable).getD false
  | image _ | sampler _ => false

/-- A structure with these members. -/
def Struct.ofMembers (structs : List Struct) (name : Text) (members : List (Text × Ty)) :
    Struct where
  name := name
  members := members
  constructible := members.all fun (_, ty) => ty.isConstructible structs
  shareable := members.all fun (_, ty) => ty.isShareable structs

/-- How many bytes a component takes. -/
def Scalar.width : Scalar → Nat
  | double => 8
  | _ => 4

/-- How many bytes lie between two columns or elements with so many components. -/
def Scalar.columnStride (s : Scalar) (rows : Nat) : Nat :=
  (if rows = 3 then 4 else rows) * s.width

/-- How many bytes lie between two elements of an array outside of a block. -/
def Ty.stride : Ty → Nat
  | scalar s => s.width
  | vector size s => s.columnStride size
  | matrix columns rows s => columns * s.columnStride rows
  | array element length => length.getD 1 * element.stride
  | _ => 16

/-- Whether the elements of arrays within the type are apart by what uniforms need. -/
def Ty.strideFits : Ty → Bool
  | array element _ => element.stride % 16 = 0 && element.strideFits
  | _ => true

end ShaderBundle.Glsl
