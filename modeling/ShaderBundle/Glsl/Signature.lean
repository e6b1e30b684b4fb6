import ShaderBundle.Glsl.Type

/-!
# Functions and overloads

Which of several functions of one name a call means, and the functions that every shader may call.

## Main definitions

* `Signature` is what a call has to fit.
* `chooseOverload` finds the best overload: one that fits exactly, or else one whose arguments
  convert most cheaply.
* `builtinSignatures` lists the overloads of a function of the language, `signaturesInReach` those
  that a call can mean.

## Implementation notes

Most functions of the language come in *families*: one overload for scalars and one for vectors of
each size. A family says which of its parameters are whole vectors and which are one component.
-/

namespace ShaderBundle.Glsl

/-- What a call has to fit. -/
structure Signature where
  /-- The types of the parameters. -/
  parameters : List Ty
  /-- What comes back, if anything. -/
  result? : Option Ty
  deriving DecidableEq, Repr

/-! ### Overloads -/

/-- How an argument becomes a parameter. -/
inductive Conversion where
  | exact
  | floatToDouble
  | intToFloat
  | intToDouble
  | other
  | unknown
  deriving DecidableEq, Repr

/-- Whether two types differ in their components alone. -/
def sameForm (a b : Ty) : Bool :=
  a.component?.isSome && b.component?.isSome && a.withComponent .float = b.withComponent .float

/-- How an argument of another type becomes a parameter, if it can. -/
def conversion? (parameter argument : Ty) : Option Conversion :=
  if parameter = argument then some .exact
  else if !sameForm parameter argument then none
  else match parameter.component?, argument.component? with
    | some target, some source =>
      match target.rank?, source.rank? with
      | none, _ => none
      | some _, none => some .other
      | some high, some low =>
        if high < low then none
        else match target, source with
          | .double, .float => some .floatToDouble
          | .float, _ => some .intToFloat
          | .double, _ => some .intToDouble
          | _, _ => some .other
    | _, _ => none

/-- Which of two overloads an argument speaks for. -/
inductive Verdict where
  | newer
  | older
  | neither
  deriving DecidableEq, Repr

/-- Which overload an argument speaks for, by its conversions in the new one and in the best so
far. -/
def compareConversions : Conversion → Conversion → Verdict
  | .exact, _ => .neither
  | _, .exact => .older
  | _, .unknown => .newer
  | .floatToDouble, _ => .newer
  | _, .floatToDouble => .older
  | .intToFloat, .intToDouble => .newer
  | .intToDouble, .intToFloat => .older
  | _, _ => .neither

/-- The best overload while a list of overloads is gone through. -/
structure Choice where
  /-- The place of the best overload in the list. -/
  best? : Option Nat := none
  /-- Its conversions. -/
  conversions : List Conversion
  /-- Whether two overloads each have an argument that speaks for them. -/
  ambiguous : Bool := false
  /-- Whether the best overload fits exactly. -/
  settled : Bool := false
  deriving DecidableEq, Repr

/-- Takes one overload into account. -/
def Choice.consider (choice : Choice) (index : Nat) (parameters arguments : List Ty) : Choice :=
  if choice.settled || parameters.length ≠ arguments.length then choice
  else match (parameters.zip arguments).mapM fun (p, a) => conversion? p a with
    | none => choice
    | some conversions =>
      if conversions.all (· = .exact) then
        { choice with best? := some index, ambiguous := false, settled := true }
      else
        let verdicts := (conversions.zip choice.conversions).map fun (new, old) =>
          compareConversions new old
        let split := verdicts.contains .newer && verdicts.contains .older
        match verdicts.find? (· ≠ .neither) with
        | some .newer =>
          { choice with best? := some index, conversions, ambiguous := choice.ambiguous || split }
        | some _ => { choice with ambiguous := choice.ambiguous || split }
        | none => { choice with best? := some index, ambiguous := true }

/-- Goes through overloads, the first of which has the place `index`. -/
def Choice.considerFrom (choice : Choice) (arguments : List Ty) : Nat → List (List Ty) → Choice
  | _, [] => choice
  | index, parameters :: others =>
    (choice.consider index parameters arguments).considerFrom arguments (index + 1) others

/-- The best of several overloads for a call, and whether it was a close thing. -/
def chooseOverload (overloads : List (List Ty)) (arguments : List Ty) : Option Nat × Bool :=
  let start : Choice := { conversions := arguments.map fun _ => .unknown }
  let choice := start.considerFrom arguments 0 overloads
  (choice.best?, choice.ambiguous)

/-! ### Families -/

/-- A parameter or a result within a family. -/
inductive Slot where
  | whole
  | part
  | truth
  | wholeAs (s : Scalar)
  | fixed (ty : Ty)
  deriving DecidableEq, Repr

/-- The scalar or vector with so many components. -/
def Ty.ofSize (s : Scalar) : Nat → Ty
  | 1 => .scalar s
  | size => .vector size s

/-- The type of a slot in the overload for a size and a component type. -/
def Slot.at (size : Nat) (s : Scalar) : Slot → Ty
  | whole => .ofSize s size
  | part => .scalar s
  | truth => .ofSize .bool size
  | wholeAs other => .ofSize other size
  | fixed ty => ty

/-- A family of overloads. -/
structure Family where
  /-- The component types. -/
  components : List Scalar
  /-- The parameters. -/
  parameters : List Slot
  /-- The result. -/
  result : Slot
  /-- The sizes. -/
  sizes : List Nat := [1, 2, 3, 4]
  deriving DecidableEq, Repr

/-- The overloads of a family. -/
def Family.signatures (family : Family) : List Signature :=
  family.components.flatMap fun s =>
    family.sizes.map fun size =>
      ⟨family.parameters.map (Slot.at size s), some (family.result.at size s)⟩

/-- Floating-point components. -/
def floats : List Scalar := [.float, .double]

/-- Components with an order and a sign. -/
def signed : List Scalar := [.float, .int, .double]

/-- All components with arithmetic. -/
def numbers : List Scalar := [.float, .int, .uint, .double]

/-- Functions of one floating-point value, component by component. -/
def floatFunctions : List String :=
  ["radians", "degrees", "sin", "cos", "tan", "asin", "acos", "atan", "sinh", "cosh", "tanh",
    "asinh", "acosh", "atanh", "exp", "log", "exp2", "log2", "sqrt", "inversesqrt", "floor",
    "ceil", "trunc", "round", "roundEven", "fract", "normalize", "dFdx", "dFdy", "fwidth",
    "dFdxFine", "dFdyFine", "fwidthFine", "dFdxCoarse", "dFdyCoarse", "fwidthCoarse"]

/-- Functions that only fragment stages may call. -/
def fragmentFunctions : List String :=
  ["dFdx", "dFdy", "fwidth", "dFdxFine", "dFdyFine", "fwidthFine", "dFdxCoarse", "dFdyCoarse",
    "fwidthCoarse"]

/-- Comparisons of vectors by component. -/
def vectorComparisons : List String :=
  ["lessThan", "lessThanEqual", "greaterThan", "greaterThanEqual"]

/-- Functions without arguments or a result that order memory accesses. -/
def barrierFunctions : List String :=
  ["barrier", "memoryBarrier", "memoryBarrierBuffer", "memoryBarrierShared", "memoryBarrierImage",
    "groupMemoryBarrier"]

/-- The families of a function of the language. -/
def families (name : String) : List Family :=
  if floatFunctions.contains name then
    [⟨floats, [.whole], .whole, [1, 2, 3, 4]⟩] ++
      if name = "atan" then [⟨floats, [.whole, .whole], .whole, [1, 2, 3, 4]⟩] else []
  else if vectorComparisons.contains name then [⟨numbers, [.whole, .whole], .truth, [2, 3, 4]⟩]
  else match name with
    | "abs" | "sign" => [⟨signed, [.whole], .whole, [1, 2, 3, 4]⟩]
    | "isnan" | "isinf" => [⟨floats, [.whole], .truth, [1, 2, 3, 4]⟩]
    | "length" => [⟨floats, [.whole], .part, [1, 2, 3, 4]⟩]
    | "dot" | "distance" => [⟨floats, [.whole, .whole], .part, [1, 2, 3, 4]⟩]
    | "cross" => [⟨floats, [.whole, .whole], .whole, [3]⟩]
    | "pow" | "reflect" => [⟨floats, [.whole, .whole], .whole, [1, 2, 3, 4]⟩]
    | "mod" =>
      [⟨floats, [.whole, .whole], .whole, [1, 2, 3, 4]⟩,
        ⟨floats, [.whole, .part], .whole, [2, 3, 4]⟩]
    | "min" | "max" =>
      [⟨numbers, [.whole, .whole], .whole, [1, 2, 3, 4]⟩,
        ⟨numbers, [.whole, .part], .whole, [2, 3, 4]⟩]
    | "clamp" =>
      [⟨numbers, [.whole, .whole, .whole], .whole, [1, 2, 3, 4]⟩,
        ⟨numbers, [.whole, .part, .part], .whole, [2, 3, 4]⟩]
    | "mix" =>
      [⟨floats, [.whole, .whole, .whole], .whole, [1, 2, 3, 4]⟩,
        ⟨floats, [.whole, .whole, .part], .whole, [2, 3, 4]⟩,
        ⟨[.float, .int, .uint, .double, .bool], [.whole, .whole, .truth], .whole, [1, 2, 3, 4]⟩]
    | "step" =>
      [⟨floats, [.whole, .whole], .whole, [1, 2, 3, 4]⟩,
        ⟨floats, [.part, .whole], .whole, [2, 3, 4]⟩]
    | "smoothstep" =>
      [⟨floats, [.whole, .whole, .whole], .whole, [1, 2, 3, 4]⟩,
        ⟨floats, [.part, .part, .whole], .whole, [2, 3, 4]⟩]
    | "fma" | "faceforward" => [⟨floats, [.whole, .whole, .whole], .whole, [1, 2, 3, 4]⟩]
    | "refract" => [⟨floats, [.whole, .whole, .part], .whole, [1, 2, 3, 4]⟩]
    | "ldexp" => [⟨[.float], [.whole, .wholeAs .int], .whole, [1, 2, 3, 4]⟩]
    | "equal" | "notEqual" =>
      [⟨[.float, .int, .uint, .double, .bool], [.whole, .whole], .truth, [2, 3, 4]⟩]
    | "any" | "all" => [⟨[.bool], [.whole], .fixed (.scalar .bool), [2, 3, 4]⟩]
    | "not" => [⟨[.bool], [.whole], .whole, [2, 3, 4]⟩]
    | "floatBitsToInt" => [⟨[.float], [.whole], .wholeAs .int, [1, 2, 3, 4]⟩]
    | "floatBitsToUint" => [⟨[.float], [.whole], .wholeAs .uint, [1, 2, 3, 4]⟩]
    | "intBitsToFloat" => [⟨[.int], [.whole], .wholeAs .float, [1, 2, 3, 4]⟩]
    | "uintBitsToFloat" => [⟨[.uint], [.whole], .wholeAs .float, [1, 2, 3, 4]⟩]
    | "bitCount" | "findLSB" | "findMSB" =>
      [⟨[.int, .uint], [.whole], .wholeAs .int, [1, 2, 3, 4]⟩]
    | "bitfieldReverse" => [⟨[.int, .uint], [.whole], .whole, [1, 2, 3, 4]⟩]
    | "bitfieldExtract" =>
      let int := Slot.fixed (.scalar .int)
      [⟨[.int, .uint], [.whole, int, int], .whole, [1, 2, 3, 4]⟩]
    | "bitfieldInsert" =>
      let int := Slot.fixed (.scalar .int)
      [⟨[.int, .uint], [.whole, .whole, int, int], .whole, [1, 2, 3, 4]⟩]
    | "packSnorm4x8" | "packUnorm4x8" =>
      [⟨[.float], [.whole], .fixed (.scalar .uint), [4]⟩]
    | "packSnorm2x16" | "packUnorm2x16" | "packHalf2x16" =>
      [⟨[.float], [.whole], .fixed (.scalar .uint), [2]⟩]
    | "unpackSnorm4x8" | "unpackUnorm4x8" =>
      [⟨[.uint], [.whole], .fixed (.vector 4 .float), [1]⟩]
    | "unpackSnorm2x16" | "unpackUnorm2x16" | "unpackHalf2x16" =>
      [⟨[.uint], [.whole], .fixed (.vector 2 .float), [1]⟩]
    | _ => []

/-! ### Matrices -/

/-- All sizes of matrices. -/
def matrixSizes : List (Nat × Nat) :=
  [2, 3, 4].flatMap fun columns => [2, 3, 4].map fun rows => (columns, rows)

/-- The overloads of a function of matrices. -/
def matrixSignatures (name : String) : List Signature :=
  floats.flatMap fun s => matrixSizes.filterMap fun (columns, rows) =>
    let matrix := Ty.matrix columns rows s
    match name with
    | "transpose" => some ⟨[matrix], some (.matrix rows columns s)⟩
    | "matrixCompMult" => some ⟨[matrix, matrix], some matrix⟩
    | "outerProduct" => some ⟨[.vector rows s, .vector columns s], some matrix⟩
    | "inverse" => if columns = rows then some ⟨[matrix], some matrix⟩ else none
    | "determinant" => if columns = rows then some ⟨[matrix], some (.scalar s)⟩ else none
    | _ => none

/-! ### Textures -/

/-- Every type of texture. -/
def textures : List Image :=
  [Scalar.float, .int, .uint].flatMap fun scalar =>
    textureForms.map fun (_, dimension, arrayed, multi) =>
      { scalar, dimension, arrayed, access := .sampled multi }

/-- How many coordinates a place in an image has, not counting layers. -/
def Dimension.rank : Dimension → Nat
  | one => 1
  | two => 2
  | three | cube => 3

/-- How many coordinates a place in an image has. -/
def Image.coordinates (form : Image) : Nat :=
  form.dimension.rank + if form.arrayed then 1 else 0

/-- Whether an image has several samples for each place. -/
def Image.isMulti (form : Image) : Bool :=
  form.access = .sampled true

/-- The word of a texture type without its component type and kind. -/
def Image.formWord? (form : Image) : Option String :=
  (textureForms.find? fun (_, dimension, arrayed, multi) =>
    dimension = form.dimension && arrayed = form.arrayed && multi = form.isMulti).map Prod.fst

/-- The letter in front of a texture or sampler word. -/
def Scalar.front : Scalar → String
  | int => "i"
  | uint => "u"
  | _ => ""

/-- The overloads of a function that pairs a texture with a sampler. -/
def pairingSignatures (name : String) : List Signature :=
  textures.flatMap fun form =>
    match form.formWord? with
    | none => []
    | some word =>
      let paired := form.scalar.front ++ "sampler" ++ word
      if name = paired then [⟨[.image form, .sampler false], some (.image form)⟩]
      else if name = paired ++ "Shadow" && form.scalar = .float then
        [⟨[.image form, .sampler true], some (.image form)⟩]
      else []

/-- The overloads of a function that reads a texture through its sampler. -/
def samplingSignatures (name : String) : List Signature :=
  textures.flatMap fun form =>
    if form.isMulti then []
    else
      let place := Ty.ofSize .float form.coordinates
      let slope := Ty.ofSize .float form.dimension.rank
      let step := Ty.ofSize .int form.dimension.rank
      let result := some (Ty.vector 4 form.scalar)
      let level := Ty.scalar .float
      match name with
      | "texture" => [⟨[.image form, place], result⟩, ⟨[.image form, place, level], result⟩]
      | "textureLod" => [⟨[.image form, place, level], result⟩]
      | "textureGrad" => [⟨[.image form, place, slope, slope], result⟩]
      | "textureOffset" =>
        [⟨[.image form, place, step], result⟩, ⟨[.image form, place, step, level], result⟩]
      | "textureLodOffset" => [⟨[.image form, place, level, step], result⟩]
      | "textureProj" =>
        [⟨[.image form, .ofSize .float (form.dimension.rank + 1)], result⟩,
          ⟨[.image form, .vector 4 .float], result⟩]
      | _ => []

/-- The overloads of a function that asks for texels or sizes. -/
def texelSignatures (name : String) : List Signature :=
  textures.flatMap fun form =>
    let place := Ty.ofSize .int form.coordinates
    let int := Ty.scalar .int
    match name with
    | "texelFetch" => [⟨[.image form, place, int], some (.vector 4 form.scalar)⟩]
    | "textureSize" =>
      let parameters := if form.isMulti then [Ty.image form] else [.image form, int]
      let size := if form.dimension = .cube then form.coordinates - 1 else form.coordinates
      [⟨parameters, some (.ofSize .int size)⟩]
    | "textureQueryLevels" => [⟨[.image form], some int⟩]
    | _ => []

/-- Every type of storage image. -/
def storageImages : List Image :=
  [Scalar.float, .int, .uint].flatMap fun scalar =>
    [Dimension.one, .two, .three].flatMap fun dimension =>
      [false, true].map fun arrayed => { scalar, dimension, arrayed, access := .storage }

/-- The overloads of a function of storage images. -/
def imageSignatures (name : String) : List Signature :=
  storageImages.flatMap fun form =>
    let place := Ty.ofSize .int form.coordinates
    let texel := Ty.vector 4 form.scalar
    match name with
    | "imageLoad" => [⟨[.image form, place], some texel⟩]
    | "imageStore" => [⟨[.image form, place, texel], none⟩]
    | "imageSize" => [⟨[.image form], some (.ofSize .int form.coordinates)⟩]
    | _ => []

/-! ### All functions -/

/-- The functions that read a texture through its sampler. -/
def samplingFunctions : List String :=
  ["texture", "textureLod", "textureGrad", "textureOffset", "textureLodOffset", "textureProj"]

/-- The overloads of a function of the language. -/
def builtinSignatures (name : String) : List Signature :=
  (families name).flatMap Family.signatures ++ matrixSignatures name ++ pairingSignatures name ++
    samplingSignatures name ++ texelSignatures name ++ imageSignatures name ++
    if barrierFunctions.contains name then [⟨[], none⟩] else []

/-- Whether the components of a type have double precision. -/
def Ty.isDouble (ty : Ty) : Bool :=
  ty.component? = some .double

/-- The overloads in reach of a call. Those of double precision are there for arguments of double
precision alone. -/
def signaturesInReach (name : String) (arguments : List Ty) : List Signature :=
  if arguments.any Ty.isDouble then builtinSignatures name
  else (builtinSignatures name).filter fun signature => !signature.parameters.any Ty.isDouble

end ShaderBundle.Glsl
