import ShaderBundle.Headless.Interface

/-!
# What crosses an entry point

The lists that linking compares, said without the walk that makes them. A value carries an endpoint
if it has a location of its own, or if it is a structure without a binding and one of its members
carries the endpoint, to any depth. What a stage reads is what an argument of an entry point
carries, what it writes is what a result carries.

## Structures within structures

A front end hands the outputs of a stage back as one structure whose members are bound, and there is
nothing that keeps it from nesting them. The walk goes down into structures without a binding and
stops at everything else. It ends because a type refers only to types that stand in front of it,
which the arena carries as a field, and the induction here goes by the place of the type in the
arena. No bound on the depth occurs.

A built-in value has a binding and no location, so it carries nothing, and neither does a structure
that is bound as a whole to a built-in.

## Entry points

A module may have several entry points, and whatever crosses any of them is read or written by the
stage. An endpoint has the name of the value that is bound, and an empty name if there is none; a
result has none.

## Main definitions

* `Arena.Carries`: a value carries an endpoint across the entry point.
* `Module.Reads`, `Module.Writes`: a stage has an endpoint on one of its sides.

## Main results

* `Arena.mem_locations_iff`: what the walk finds is what is carried.
* `Module.mem_entryInputs_iff`, `Module.mem_entryOutputs_iff`: the same for the sides of a stage.
-/

namespace ShaderBundle.Headless

namespace Arena

variable {types : Arena} {name? : Option Text} {ty : Handle} {binding? : Option Binding}
  {endpoint : Endpoint}

/-- A value with a name, a type and perhaps a binding carries an endpoint. -/
inductive Carries (types : Arena) :
    Option Text → Handle → Option Binding → Endpoint → Prop where
  /-- It is bound to a location, under its own name. -/
  | bound {name? : Option Text} {ty : Handle} {location : Nat} :
    Carries types name? ty (some (.location location)) ⟨location, name?.getD []⟩
  /-- It has no binding, and one of its members carries the endpoint. -/
  | member {name? : Option Text} {ty : Handle} {members : List Value} {member : Value}
    {endpoint : Endpoint} (hinner : types.inner ty = .struct members) (hmem : member ∈ members)
    (h : Carries types member.name? member.ty member.binding? endpoint) :
    Carries types name? ty none endpoint

/-- A structure without a binding has the locations of its members. -/
theorem locations_of_struct {members : List Value} (h : types.inner ty = .struct members) :
    types.locations name? ty none = members.flatMap fun member =>
      types.locations member.name? member.ty member.binding? := by
  rw [locations]
  split
  next others hinner =>
    obtain rfl := TypeInner.struct.inj (hinner.symm.trans h)
    rw [← List.attach_map_subtype_val others, List.flatMap_map]
    simp
  next hother => exact absurd h (hother members)

/-- Nothing else without a binding has any. -/
theorem locations_of_not_struct (h : ∀ members, types.inner ty ≠ .struct members) :
    types.locations name? ty none = [] := by
  rw [locations]
  split
  next members hinner => exact absurd hinner (h members)
  next => rfl

/-- **What the walk finds is what is carried.** -/
theorem mem_locations_iff :
    endpoint ∈ types.locations name? ty binding? ↔ types.Carries name? ty binding? endpoint := by
  -- the induction is on the type: members stand in front of the structure
  induction ty using Nat.strongRecOn generalizing name? binding? with
  | ind ty ih =>
    cases binding? with
    | some binding =>
      cases binding with
      | location location =>
        rw [locations, List.mem_singleton]
        constructor
        · rintro rfl
          exact .bound
        · rintro ⟨⟩
          rfl
      | builtIn =>
        rw [locations]
        refine iff_of_false List.not_mem_nil ?_
        rintro ⟨⟩
    | none =>
      by_cases hstruct : ∃ members, types.inner ty = .struct members
      · obtain ⟨members, hinner⟩ := hstruct
        rw [locations_of_struct hinner, List.mem_flatMap]
        constructor
        · rintro ⟨member, hmem, hfound⟩
          exact .member hinner hmem ((ih _ (member_lt hinner hmem)).mp hfound)
        · rintro (_ | ⟨hother, hmem, hcarries⟩)
          obtain rfl := TypeInner.struct.inj (hother.symm.trans hinner)
          exact ⟨_, hmem, (ih _ (member_lt hinner hmem)).mpr hcarries⟩
      · rw [not_exists] at hstruct
        rw [locations_of_not_struct hstruct]
        refine iff_of_false List.not_mem_nil ?_
        rintro (_ | ⟨hinner, -, -⟩)
        exact hstruct _ hinner

end Arena

namespace Module

variable {module : Module} {endpoint : Endpoint}

/-- An argument of an entry point carries the endpoint. -/
def Reads (module : Module) (endpoint : Endpoint) : Prop :=
  ∃ entry ∈ module.entryPoints, ∃ argument ∈ entry.arguments,
    module.types.Carries argument.name? argument.ty argument.binding? endpoint

/-- The result of an entry point, which has no name, carries the endpoint. -/
def Writes (module : Module) (endpoint : Endpoint) : Prop :=
  ∃ entry ∈ module.entryPoints, ∃ result, entry.result? = some result ∧
    module.types.Carries none result.ty result.binding? endpoint

theorem mem_entryInputs_iff : endpoint ∈ module.entryInputs ↔ module.Reads endpoint := by
  simp only [entryInputs, Reads, List.mem_flatMap, Arena.mem_locations_iff]
  constructor
  · rintro ⟨argument, ⟨entry, hentry, hargument⟩, hcarries⟩
    exact ⟨entry, hentry, argument, hargument, hcarries⟩
  · rintro ⟨entry, hentry, argument, hargument, hcarries⟩
    exact ⟨argument, ⟨entry, hentry, hargument⟩, hcarries⟩

theorem mem_entryOutputs_iff : endpoint ∈ module.entryOutputs ↔ module.Writes endpoint := by
  simp only [entryOutputs, Writes, List.mem_flatMap, List.mem_filterMap, Arena.mem_locations_iff]
  constructor
  · rintro ⟨result, ⟨entry, hentry, hresult⟩, hcarries⟩
    exact ⟨entry, hentry, result, hresult, hcarries⟩
  · rintro ⟨entry, hentry, result, hresult, hcarries⟩
    exact ⟨result, ⟨entry, hentry, hresult⟩, hcarries⟩

end Module

end ShaderBundle.Headless
