import ShaderBundle.Bundle.Stage
import ShaderBundle.Graphics.Uniform

/-!
# Compiled stages

What the headless backend keeps of a stage after its front end has accepted it. It keeps the whole
module and asks it twice, both times when a program is linked: what the entry points read and write,
and which globals the program has.

A module speaks of types by their places in an arena. A type refers to others that stand in front
of it: the validator behind the front end accepts nothing else. So the arena carries this as
a field, and whoever follows references needs no other reason to come to an end.

Scope: of the data of a module only that is here which linking looks at. There are no function
bodies, constants, overrides, widths of scalars, offsets and strides, no interpolation of an input
and no access to storage. The types that linking does not tell apart are one, `TypeInner.other`.

## Main definitions

* `TypeInner` is what a type is made of, `Arena` are the types of a module.
* `Value` is a named value with a type and perhaps a binding of its own: a member of a structure, or
  an argument of an entry point.
* `GlobalVariable`, `EntryPoint` and `Module` are as their names say.
* `FrontEnd` is what compiles: a fixed function of the stage and its source.

## Implementation notes

Locations and lengths of arrays are 32-bit words where a module comes from, and numbers here. They
are copied and compared and nothing is added to them, so the two agree on every module.
-/

namespace ShaderBundle.Headless

/-! ### Types -/

/-- A type by its place in the arena of its module. -/
abbrev Handle := Nat

/-- What a scalar is. -/
inductive ScalarKind where
  | sint
  | uint
  | float
  | bool
  | abstractInt
  | abstractFloat
  deriving DecidableEq, Repr

/-- How many components a vector has, or how many columns or rows a matrix. -/
inductive VectorSize where
  | bi
  | tri
  | quad
  deriving DecidableEq, Repr

/-- The dimensions of an image. -/
inductive ImageDimension where
  | one
  | two
  | three
  | cube
  deriving DecidableEq, Repr

/-- The length of an array: known, known once the overrides are, or known when the program runs. -/
inductive ArraySize where
  | constant (count : Nat)
  | pending
  | dynamic
  deriving DecidableEq, Repr

/-- How a value crosses the entry point. -/
inductive Binding where
  | builtIn
  | location (location : Nat)
  deriving DecidableEq, Repr

/-- A member of a structure, or an argument of an entry point. -/
structure Value where
  /-- The name, if it has one. -/
  name? : Option Text := none
  /-- The type. -/
  ty : Handle
  /-- How it crosses the entry point. Without a binding of its own, its members say how. -/
  binding? : Option Binding := none
  deriving DecidableEq, Repr

/-- What a type is made of. -/
inductive TypeInner where
  | scalar (kind : ScalarKind)
  | vector (size : VectorSize) (kind : ScalarKind)
  | matrix (columns rows : VectorSize)
  | array (base : Handle) (size : ArraySize)
  | struct (members : List Value)
  | image (dimension : ImageDimension) (arrayed : Bool)
  | sampler
  /-- An atomic value, a pointer, a structure or a query for rays, or an array of bindings. -/
  | other
  deriving DecidableEq, Repr

/-- The types that a type refers to, as far as linking follows them. -/
def TypeInner.handles : TypeInner → List Handle
  | array base _ => [base]
  | struct members => members.map Value.ty
  | _ => []

/-- Types refer to those in front of them. -/
def IsBackward (types : List TypeInner) : Prop :=
  ∀ (ty : Handle) (h : ty < types.length), ∀ other ∈ types[ty].handles, other < ty

instance (types : List TypeInner) : Decidable (IsBackward types) :=
  @Nat.decidableBallLT types.length (fun ty h => ∀ other ∈ types[ty].handles, other < ty)
    fun ty h => @List.decidableBAll _ (· < ty) (fun other => Nat.decLt other ty) types[ty].handles

/-- The types of a module. -/
structure Arena where
  /-- The types, each at its place. -/
  types : List TypeInner
  /-- A type refers to those in front of it, so that walks through types end. -/
  backward : IsBackward types := by decide
  deriving DecidableEq, Repr

namespace Arena

/-- No types. -/
def empty : Arena where
  types := []
  backward _ hty := absurd hty (Nat.not_lt_zero _)

/-- The type at a place. A module that was validated names no place beyond the end; were it to, then
nothing would be known of the type. -/
def inner (types : Arena) (ty : Handle) : TypeInner :=
  types.types[ty]?.getD .other

/-- What a type refers to stands in front of it. -/
theorem lt_of_mem_handles_inner {types : Arena} {ty other : Handle}
    (h : other ∈ (types.inner ty).handles) : other < ty := by
  by_cases hty : ty < types.types.length
  · rw [inner, List.getElem?_eq_getElem hty] at h
    exact types.backward ty hty other h
  · rw [inner, List.getElem?_eq_none (Nat.le_of_not_lt hty)] at h
    exact absurd h List.not_mem_nil

theorem base_lt {types : Arena} {ty base : Handle} {size : ArraySize}
    (h : types.inner ty = .array base size) : base < ty :=
  lt_of_mem_handles_inner (h.symm ▸ List.mem_singleton_self base :
    base ∈ (types.inner ty).handles)

theorem member_lt {types : Arena} {ty : Handle} {members : List Value} {member : Value}
    (h : types.inner ty = .struct members) (hmem : member ∈ members) : member.ty < ty :=
  lt_of_mem_handles_inner (h.symm ▸ List.mem_map_of_mem hmem :
    member.ty ∈ (types.inner ty).handles)

/-- A type as it can stand behind an arena: if it refers to types that are not there, then nothing
is known of it. -/
def fitted (types : Arena) (inner : TypeInner) : TypeInner :=
  if ∀ other ∈ inner.handles, other < types.types.length then inner else .other

theorem lt_of_mem_handles_fitted {types : Arena} {inner : TypeInner} {other : Handle}
    (h : other ∈ (types.fitted inner).handles) : other < types.types.length := by
  rw [fitted] at h
  split at h
  next hall => exact hall other h
  next => exact absurd h List.not_mem_nil

/-- The arena with one more type behind the others. -/
def push (types : Arena) (inner : TypeInner) : Arena where
  types := types.types ++ [types.fitted inner]
  backward := by
    intro ty hty other hother
    rw [List.getElem_append] at hother
    split at hother
    next hlt => exact types.backward ty hlt other hother
    next hle =>
      rw [List.getElem_singleton] at hother
      exact Nat.lt_of_lt_of_le (lt_of_mem_handles_fitted hother) (Nat.le_of_not_lt hle)

end Arena

/-! ### Modules -/

/-- Where a global is kept: by a function, an invocation or a group of them, or outside. -/
inductive AddressSpace where
  | function
  | invocation
  | workGroup
  | uniform
  | storage
  | handle
  | pushConstant
  deriving DecidableEq, Repr

/-- A global of a stage. -/
structure GlobalVariable where
  /-- The name. The global of a block without an instance name has none. -/
  name? : Option Text
  /-- Where it is kept. -/
  space : AddressSpace
  /-- The type. -/
  ty : Handle
  deriving DecidableEq, Repr

/-- What an entry point hands back. -/
structure Result where
  /-- The type. -/
  ty : Handle
  /-- How it crosses the entry point. Without a binding of its own, its members say how. -/
  binding? : Option Binding := none
  deriving DecidableEq, Repr

/-- An entry point, by its two sides. -/
structure EntryPoint where
  /-- What it is given. -/
  arguments : List Value := []
  /-- What it hands back, if anything. -/
  result? : Option Result := none
  deriving DecidableEq, Repr

/-- A compiled stage. -/
structure Module where
  /-- The types. -/
  types : Arena := .empty
  /-- The globals, in the order of their declarations. -/
  globals : List GlobalVariable := []
  /-- The entry points. -/
  entryPoints : List EntryPoint := []
  deriving DecidableEq, Repr

/-- Compiles a source, or hands back the log. -/
abbrev FrontEnd := Stage → Text → Except Text Module

end ShaderBundle.Headless
