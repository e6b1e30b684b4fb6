import ShaderBundle.Graphics.Backend
import ShaderBundle.Headless.Interface

/-!
# Linking without a driver

A program is either one compute stage alone, or it has a vertex and a fragment stage and no compute
stage. In the second case the vertex stage writes every location that the fragment stage reads; of
several stages of one kind the first counts.

A linked program lists the named uniforms of all its stages in order. A name that was listed before
is skipped, and so are samplers; the location of a uniform is its place in the list. It lists the
named inputs of its first vertex stage as attributes, at the locations that they have.

Scope: linking compares locations and nothing else. Whether what is written there is of the type
that is read is not asked, and neither is whether one location is written twice.

## Main definitions

* `Compiled` is a live stage.
* `LinkFault` is why stages do not make a program, `checkStages` finds it.
* `listUniforms` and `listAttributes` describe a linked program.
-/

namespace ShaderBundle.Headless

/-- A live stage. -/
structure Compiled where
  /-- What the backend calls it. -/
  id : StageId
  /-- The kind of stage. -/
  stage : Stage
  /-- What was compiled. -/
  module : Module
  deriving DecidableEq, Repr

/-- Why a program does not link. -/
inductive LinkFault where
  | unknownProgram (program : ProgramId)
  | unwritten (endpoints : List Endpoint)
  | computeMixed
  | stageMissing
  deriving DecidableEq, Repr

/-- The line about an input that nobody writes. -/
def unwrittenLine (endpoint : Endpoint) : Text :=
  "error: fragment shader input `".toList ++ endpoint.name ++ "' at location ".toList ++
    decimal endpoint.location ++ " is not written by the vertex shader".toList

/-- The log of a fault. -/
def LinkFault.message : LinkFault → Text
  | unknownProgram program =>
    "error: program ".toList ++ decimal program.raw ++ " does not exist".toList
  | unwritten endpoints => ['\n'].intercalate (endpoints.map unwrittenLine)
  | computeMixed => "error: compute shaders cannot be linked with other stages".toList
  | stageMissing => "error: program needs both a vertex and a fragment shader".toList

/-- The first module of a kind. -/
def firstOf? (stage : Stage) (stages : List Compiled) : Option Module :=
  (stages.find? fun compiled => compiled.stage = stage).map Compiled.module

/-- What the fragment stage reads and the vertex stage does not write. -/
def unwrittenInputs (vertex fragment : Module) : List Endpoint :=
  let written := vertex.entryOutputs.map Endpoint.location
  fragment.entryInputs.filter fun endpoint => !written.contains endpoint.location

/-- Whether stages make a program. -/
def checkStages (stages : List Compiled) : Except LinkFault Unit :=
  match firstOf? .vertex stages, firstOf? .fragment stages, firstOf? .compute stages with
  | none, none, some _ => if stages.length = 1 then .ok () else .error .computeMixed
  | some vertex, some fragment, none =>
    match unwrittenInputs vertex fragment with
    | [] => .ok ()
    | endpoints => .error (.unwritten endpoints)
  | _, _, some _ => .error .computeMixed
  | _, _, none => .error .stageMissing

/-! ### What a linked program lists -/

/-- The list with one more uniform, unless the global is none that a program lists or its name is
taken. The place is a number that a program can hold: locations are counted in 31 bits, and no
program has so many uniforms. -/
def listUniform (module : Module) (listed : List UniformInfo) (global : GlobalVariable) :
    List UniformInfo :=
  if !global.space.isListed then listed
  else match global.name? with
    | none => listed
    | some name =>
      if listed.any fun info => info.name == name then listed
      else if module.types.inner global.ty = .sampler then listed
      else
        let (kind, size) := module.types.uniformKind global.ty
        listed ++ [{ name, location := some ⟨listed.length⟩, kind, size }]

/-- The uniforms of a program with these stages. -/
def listUniforms (stages : List Compiled) : List UniformInfo :=
  stages.foldl (fun listed compiled =>
    compiled.module.globals.foldl (listUniform compiled.module) listed) []

/-- The bound below which a number is a location of an attribute. -/
def attributeBound : Nat := 0x80000000

/-- The attribute at an endpoint. -/
def attributeOf? (endpoint : Endpoint) : Option (Text × Location) :=
  if endpoint.name.isEmpty || attributeBound ≤ endpoint.location then none
  else some (endpoint.name, ⟨endpoint.location⟩)

/-- The attributes of a program with these stages. -/
def listAttributes (stages : List Compiled) : List (Text × Location) :=
  match firstOf? .vertex stages with
  | none => []
  | some vertex => vertex.entryInputs.filterMap attributeOf?

end ShaderBundle.Headless
