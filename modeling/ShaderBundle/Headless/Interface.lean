import ShaderBundle.Headless.Module

/-!
# What a module shows

The two questions that linking asks a compiled stage: at which locations its entry points read and
write, and what its globals look like to the user of a program.

A value that crosses an entry point has a location of its own, or it is one of the language and has
none, or it is a structure whose members are asked in turn. A global is looked at by its type: a
scalar, a vector, a matrix or an image of the shapes that a program knows, an array of such, or
something else. Both walk down the types of the module, and come to an end because types refer to
those in front of them.

## Main definitions

* `Endpoint` is a location with the name it goes by.
* `Arena.locations` are the endpoints of one value, `Module.entryInputs` and `Module.entryOutputs`
  those of a stage.
* `Arena.uniformKind` is the kind of a type and the length that is reported for it.
* `AddressSpace.isListed` says which globals a program lists.

## Implementation notes

Only whole structures are opened. An array of structures without a binding of its own has no
location, whatever its elements have, and so has any other type.
-/

namespace ShaderBundle.Headless

/-- An input or an output of an entry point. -/
structure Endpoint where
  /-- Where it is found from outside. -/
  location : Nat
  /-- The name, which may be empty. -/
  name : Text
  deriving DecidableEq, Repr

/-- What a value of a type carries across an entry point. -/
def Arena.locations (types : Arena) (name? : Option Text) (ty : Handle)
    (binding? : Option Binding) : List Endpoint :=
  match binding? with
  | some (.location location) => [{ location, name := name?.getD [] }]
  | some .builtIn => []
  | none =>
    match _hinner : types.inner ty with
    | .struct members => members.attach.flatMap fun ⟨member, _⟩ =>
        types.locations member.name? member.ty member.binding?
    | _ => []
termination_by ty
decreasing_by exact Arena.member_lt _hinner ‹_›

/-- What the entry points of a stage read. -/
def Module.entryInputs (module : Module) : List Endpoint :=
  (module.entryPoints.flatMap EntryPoint.arguments).flatMap fun argument =>
    module.types.locations argument.name? argument.ty argument.binding?

/-- What the entry points of a stage write. -/
def Module.entryOutputs (module : Module) : List Endpoint :=
  (module.entryPoints.filterMap EntryPoint.result?).flatMap fun result =>
    module.types.locations none result.ty result.binding?

/-- How a program lists a uniform of a type: its kind and its length. Of an array of arrays it is
the kind of the innermost elements and the length of the outermost array. -/
def Arena.uniformKind (types : Arena) (ty : Handle) : UniformKind × Nat :=
  match _hinner : types.inner ty with
  | .scalar .sint => (.int, 1)
  | .scalar .uint => (.uint, 1)
  | .scalar .float => (.float, 1)
  | .vector .bi .float => (.vec2, 1)
  | .vector .tri .float => (.vec3, 1)
  | .vector .quad .float => (.vec4, 1)
  | .matrix .quad .quad => (.mat4, 1)
  | .image .two false => (.sampler2D, 1)
  | .array base size =>
    ((types.uniformKind base).1, match size with
      | .constant count => count
      | .pending | .dynamic => 1)
  | _ => (.other, 1)
termination_by ty
decreasing_by exact Arena.base_lt _hinner

/-- Whether a program lists the globals that are kept in a space. -/
def AddressSpace.isListed : AddressSpace → Bool
  | uniform | handle => true
  | function | invocation | workGroup | storage | pushConstant => false

end ShaderBundle.Headless
