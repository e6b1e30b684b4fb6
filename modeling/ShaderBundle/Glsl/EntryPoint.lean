import ShaderBundle.Glsl.Session

/-!
# Entry points

What goes into a stage and what comes out of it, and what a stage needs to be sound as a whole.

## Main definitions

* `Piece` is one value at the entry point. Arrays and structures go piece by piece, at locations
  that follow each other.
* `invalidGlobal?` finds a global that cannot be what it is declared to be.
* `unfitPiece?` finds a piece that does not fit the stage.
-/

namespace ShaderBundle.Glsl

/-! ### Globals -/

/-- Whether a global can be what it is declared to be. -/
def GlobalRecord.isSound (structs : List Struct) (record : GlobalRecord) : Bool :=
  match record.space with
  | .uniform =>
    record.ty.strideFits && record.ty.isConstructible structs && record.ty.isShareable structs &&
      record.initializer = .absent
  | .storage => record.ty.isShareable structs && record.initializer = .absent
  | .internal => record.ty.isConstructible structs && record.initializer ≠ .unfit
  | .handle | .shared | .pushConstant => record.initializer = .absent

/-- The first global that cannot be what it is declared to be, with its place. -/
def invalidGlobal? (structs : List Struct) (globals : List GlobalRecord) :
    Option (GlobalRecord × Nat) :=
  globals.zipIdx.find? fun (record, _) => !record.isSound structs

/-- The first function that is not sound, with its place. -/
def unsoundFunction? (functions : List Function) : Option (Function × Nat) :=
  functions.zipIdx.find? fun (function, _) => !function.sound

/-! ### Pieces -/

/-- One value at the entry point. -/
structure Piece where
  /-- The name, which may be empty. -/
  name : Text
  /-- The type. -/
  ty : Ty
  /-- How it is bound. -/
  binding : Binding
  deriving DecidableEq, Repr

mutual

/-- The pieces of a value at a location. The fuel bounds how deeply types are nested. -/
def piecesAt (structs : List Struct) : Nat → Text → Ty → Nat → Option Interpolation → Bool →
    List Piece
  | 0, _, _, _, _, _ => []
  | fuel + 1, name, ty, location, interpolation?, sampled =>
    match ty with
    | .array element (some length) =>
      elementPieces structs fuel name element location length
    | .struct index =>
      memberPieces structs fuel location ((structs[index]?.map Struct.members).getD [])
    | _ => [⟨name, ty, .location location interpolation? sampled⟩]

/-- The pieces of the elements of an array, from a location on. -/
def elementPieces (structs : List Struct) : Nat → Text → Ty → Nat → Nat → List Piece
  | 0, _, _, _, _ => []
  | _ + 1, _, _, _, 0 => []
  | fuel + 1, name, element, location, left + 1 =>
    let interpolation? := element.component?.map fun s =>
      if s.isFloat then Interpolation.perspective else .flat
    piecesAt structs fuel name element location interpolation? false ++
      elementPieces structs fuel name element (location + 1) left

/-- The pieces of members, from a location on. -/
def memberPieces (structs : List Struct) : Nat → Nat → List (Text × Ty) → List Piece
  | 0, _, _ => []
  | _ + 1, _, [] => []
  | fuel + 1, location, (name, ty) :: others =>
    let interpolation? := ty.component?.map fun s =>
      if s.isFloat then Interpolation.perspective else .flat
    piecesAt structs fuel name ty location interpolation? false ++
      memberPieces structs fuel (location + 1) others

end

/-- A bound on the steps into a type: its lengths, levels and members taken together. -/
def Ty.weight : Ty → Nat
  | array element length => (length.getD 0 + 2) * (element.weight + 2)
  | _ => 2

/-- A bound on the steps into any type over these structures. -/
def structsWeight (structs : List Struct) : Nat :=
  structs.foldl (fun total made =>
    made.members.foldl (fun total (_, ty) => total + ty.weight + 2) (total + 2)) 2

/-- The pieces of a global that crosses the entry point. -/
def Crossing.pieces (structs : List Struct) (crossing : Crossing) : List Piece :=
  match crossing.binding with
  | .builtin _ => [⟨[], crossing.ty, crossing.binding⟩]
  | .location location interpolation? sampled =>
    piecesAt structs (crossing.ty.weight + structsWeight structs) (crossing.name?.getD [])
      crossing.ty location interpolation? sampled

/-- All pieces on one side of the entry point. -/
def piecesOn (structs : List Struct) (crossings : List Crossing) (output : Bool) : List Piece :=
  (crossings.filter fun crossing => crossing.output = output).flatMap (Crossing.pieces structs)

/-! ### Soundness -/

/-- Whether a value of the language may be used on a side of a stage. -/
def builtinFits (stage : Stage) (output : Bool) (ty : Ty) (name : Text) : Bool :=
  match String.ofList name, stage with
  | "gl_Position", stage => stage = .vertex && output
  | "gl_FragCoord", stage => stage = .fragment && !output
  | "gl_PointSize", stage => stage = .vertex && output
  | "gl_ClipDistance", stage | "gl_CullDistance", stage =>
    stage = .vertex && output && ty ≠ .array (.scalar .float) none
  | "gl_FragDepth", stage => stage = .fragment && output
  | "gl_PointCoord", stage | "gl_FrontFacing", stage | "gl_PrimitiveID", stage
  | "gl_SampleID", stage => stage = .fragment && !output
  | "gl_BaseVertex", stage | "gl_BaseInstance", stage | "gl_InstanceIndex", stage
  | "gl_VertexIndex", stage | "gl_DrawID", stage => stage = .vertex && !output
  | _, stage => stage = .compute && !output

/-- Whether values have to be interpolated on a side of a stage. -/
def isInterpolated : Stage → Bool → Bool
  | .vertex, output => output
  | .fragment, output => !output
  | _, _ => false

/-- Whether the interpolation of a value fits its components. -/
def interpolationFits (needed : Bool) (s : Scalar) (interpolation? : Option Interpolation)
    (sampled : Bool) : Bool :=
  !(sampled && interpolation? = some .flat) &&
    (!needed || if s.isFloat then interpolation?.isSome else interpolation? = some .flat)

/-- Whether a piece fits its side of a stage. -/
def Piece.fits (stage : Stage) (output : Bool) (piece : Piece) : Bool :=
  match piece.binding, piece.ty with
  | .builtin name, ty => builtinFits stage output ty name
  | .location _ interpolation? sampled, .scalar s
  | .location _ interpolation? sampled, .vector _ s =>
    s.isNumeric && interpolationFits (isInterpolated stage output) s interpolation? sampled
  | _, _ => false

/-- The location of a piece, if it has one. -/
def Piece.location? (piece : Piece) : Option Nat :=
  match piece.binding with
  | .location location _ _ => some location
  | .builtin _ => none

/-- The first piece that does not fit its side of a stage, or not at its location, given the
locations that are taken. -/
def unfitPiece? (stage : Stage) (output : Bool) (taken : List Nat) : List Piece → Option Piece
  | [] => none
  | piece :: others =>
    match piece.location? with
    | some location =>
      if taken.contains location || !piece.fits stage output then some piece
      else unfitPiece? stage output (location :: taken) others
    | none => if piece.fits stage output then unfitPiece? stage output taken others else some piece

/-- Whether a stage writes what the next step of the pipeline cannot do without. -/
def writesPosition (stage : Stage) (outputs : List Piece) : Bool :=
  stage ≠ .vertex ||
    outputs.any fun piece => piece.binding = .builtin "gl_Position".toList

/-- Whether what is used runs in a stage. -/
def Effects.runIn (stage : Stage) (effects : Effects) : Bool :=
  (!effects.fragmentOnly || stage = .fragment) && (!effects.computeOnly || stage = .compute)

/-- What two functions use together. -/
def Effects.join (a b : Effects) : Effects where
  fragmentOnly := a.fragmentOnly || b.fragmentOnly
  computeOnly := a.computeOnly || b.computeOnly
  globals := a.globals ++ b.globals
  calls := a.calls ++ b.calls

/-- What a function uses, itself and through so many levels of calls. -/
def effectsOf (functions : List Function) : Nat → Nat → Effects
  | 0, _ => {}
  | levels + 1, index =>
    match functions[index]? with
    | none => {}
    | some function =>
      function.effects.calls.eraseDups.foldl
        (fun known callee => known.join (effectsOf functions levels callee)) function.effects

/-- The first global that is used and has the binding of one before it. -/
def bindingClash? (used : List Nat) (globals : List GlobalRecord) : Option GlobalRecord :=
  clashFrom [] globals.zipIdx
where
  /-- The same for the globals that are left, given the bindings before them. -/
  clashFrom (before : List (Nat × Nat)) : List (GlobalRecord × Nat) → Option GlobalRecord
    | [] => none
    | (record, index) :: others =>
      match record.binding? with
      | none => clashFrom before others
      | some binding =>
        if !used.contains index then clashFrom before others
        else if before.contains binding then some record
        else clashFrom (binding :: before) others

end ShaderBundle.Glsl
