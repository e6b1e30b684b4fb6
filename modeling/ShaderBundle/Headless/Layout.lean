import ShaderBundle.Bundle.Stage
import ShaderBundle.Headless.Declaration

/-!
# Layouts and versions for the headless backend

The GLSL front end of the headless backend wants a layout on every global declaration and a
version of at least 440. Sources written for a driver have neither, so both are filled in, in place:
every line keeps its number.

* A uniform gets `set = 0` and the next binding.
* A vertex input or a fragment output gets the next location that no layout of its stage takes.
* A vertex output or a fragment input is a *varying*: its location belongs to its name, so that
  both sides of an interface agree. The names are remembered for the life of the backend.

## Main definitions

* `Varyings` remembers the names of varyings in the order of their locations.
* `assign` fills in layouts, `liftVersion` raises the version.

## Implementation notes

Bindings and locations are words of 32 bits in a layout. Here they are counted without a bound, with
which the words agree as long as there are fewer than 2 ^ 32 uniforms in a source, and names of
varyings in the life of a backend. Locations that a source writes are words when they are read, and
the search for a free one stays within words unless all of them are taken.
-/

namespace ShaderBundle.Headless

/-- The names of varyings; the location of a name is its index. -/
structure Varyings where
  /-- The names, each once. -/
  names : List Text := []
  deriving DecidableEq, Repr

namespace Varyings

/-- The location of a name that was seen before. -/
def location? (varyings : Varyings) (name : Text) : Option Nat :=
  varyings.names.idxOf? name

/-- The location of a name, which is remembered if it is new. -/
def locate (varyings : Varyings) (name : Text) : Nat × Varyings :=
  match varyings.location? name with
  | some location => (location, varyings)
  | none => (varyings.names.length, ⟨varyings.names ++ [name]⟩)

end Varyings

/-- The least number from `start` on that is not taken. The list bounds the search. -/
def nextFreeFrom (taken : List Nat) : Nat → Nat → Nat
  | 0, start => start
  | fuel + 1, start => if taken.contains start then nextFreeFrom taken fuel (start + 1) else start

/-- The least number that is not taken. -/
def nextFree (taken : List Nat) : Nat :=
  nextFreeFrom taken taken.length 0

/-- What is known while layouts are given out. -/
structure Allocation where
  /-- The varyings of the backend. -/
  varyings : Varyings
  /-- The next binding for a uniform. -/
  binding : Nat := 0
  /-- The input locations in use. -/
  inputs : List Nat := []
  /-- The output locations in use. -/
  outputs : List Nat := []
  deriving DecidableEq, Repr

namespace Allocation

/-- Starts from the locations that a source gives explicitly. -/
def ofLines (varyings : Varyings) (ls : List Text) : Allocation where
  varyings := varyings
  inputs := ls.filterMap fun line =>
    match explicitLocation? line with
    | some (.input, location) => some location
    | _ => none
  outputs := ls.filterMap fun line =>
    match explicitLocation? line with
    | some (.output, location) => some location
    | _ => none

/-- A layout with one location. -/
def locationLayout (location : Nat) : Text :=
  "layout(location = ".toList ++ decimal location ++ [')']

/-- A layout with one binding of set zero. -/
def bindingLayout (binding : Nat) : Text :=
  "layout(set = 0, binding = ".toList ++ decimal binding ++ [')']

/-- Whether declarations of this storage are varyings of the stage. -/
def isVarying (stage : Stage) : Storage → Bool
  | .output => stage = .vertex
  | .input => stage = .fragment
  | .uniform => false

/-- The layout of a declaration, and what is known afterwards. -/
def give (stage : Stage) (known : Allocation) (declaration : Declaration) : Text × Allocation :=
  if isVarying stage declaration.storage then
    let (location, varyings) := known.varyings.locate declaration.name
    (locationLayout location, { known with varyings })
  else match declaration.storage with
    | .uniform => (bindingLayout known.binding, { known with binding := known.binding + 1 })
    | .input =>
      let location := nextFree known.inputs
      (locationLayout location, { known with inputs := known.inputs ++ [location] })
    | .output =>
      let location := nextFree known.outputs
      (locationLayout location, { known with outputs := known.outputs ++ [location] })

/-- A line with a layout put behind its indentation. -/
def insert (layout line : Text) : Text :=
  line.takeWhile isBlank ++ layout ++ ' ' :: line.dropWhile isBlank

/-- Fills in the layouts of the lines, in order. -/
def fill (stage : Stage) (known : Allocation) : List Text → List Text × Allocation
  | [] => ([], known)
  | line :: rest =>
    match Declaration.bare? line with
    | none =>
      let (filled, final) := fill stage known rest
      (line :: filled, final)
    | some declaration =>
      let (layout, next) := give stage known declaration
      let (filled, final) := fill stage next rest
      (insert layout line :: filled, final)

end Allocation

/-- Fills in the layouts of a source. -/
def assign (varyings : Varyings) (stage : Stage) (source : Text) : Text × Varyings :=
  let ls := source.pieces
  let (filled, final) := (Allocation.ofLines varyings ls).fill stage ls
  (Text.unlines filled, final.varyings)

/-! ### Versions -/

/-- The oldest version that the front end reads. -/
def oldestVersion : Nat := 440

/-- The version that takes the place of an older one. -/
def liftedVersion : Text := "#version 450 core".toList

/-- The number in a version directive that is spelled without a blank before `version`. -/
def versionNumber? (line : Text) : Option Nat :=
  let s := line.trimStart
  if "#version".toList.isPrefixOf s then
    match Text.words (s.drop 8) with
    | [] => none
    | number :: _ => readWord? number
  else none

/-- Raises the first numbered version directive, if it is too old. -/
def liftLines : List Text → List Text
  | [] => []
  | line :: rest =>
    match versionNumber? line with
    | none => line :: liftLines rest
    | some number => (if number < oldestVersion then liftedVersion else line) :: rest

/-- Raises the version of a source, if it is too old. -/
def liftVersion (source : Text) : Text :=
  Text.unlines (liftLines source.pieces)

end ShaderBundle.Headless
