import ShaderBundle.Graphics.Build
import ShaderBundle.Source.Loader

/-!
# The table of a shader registry

A registry maps names to programs. Each name is unloaded, being built, ready or failed; a ready name
has a handle and counts its references. All callers share one table under a lock, so what happens to
it is a sequence of sections, and every function here is one section.

Building takes two sections. `claim` keeps other callers from a name while it is built the first
time and `settle` records the outcome; `mark` and `replace` do the same for a name that is ready
already, whose old program stays in use in between.

A program that the table has no use for is *retired*. It is destroyed once nobody else holds it,
which `sweep` finds out.

## Main definitions

* `RegistryError` is the cause of a refused request.
* `Slot` is the state of a name, `Entry` that of a ready one.
* `Slots` is the table with its sections.

## Implementation notes

Programs appear as references: numbers under which the graphics thread knows the program objects.
The table never looks into one.
-/

namespace ShaderBundle

/-- Why a request to the registry was refused. -/
inductive RegistryError where
  | load (error : LoadError)
  | split (error : SplitError)
  | build (error : BuildError)
  /-- No program has the handle. -/
  | unknownHandle
  /-- The name is not ready. -/
  | notLoaded (name : Text)
  deriving DecidableEq, Repr

namespace RegistryError

/-- The cause in words. -/
def message : RegistryError → Text
  | load error => error.message
  | split error => error.message.toList
  | build error => error.message
  | unknownHandle => "shader handle is not registered".toList
  | notLoaded name => "shader '".toList ++ name ++ "' is not loaded".toList

/-- A failure of the graphics thread. -/
def thread (cause : ThreadError) : RegistryError :=
  build (.thread cause)

/-- Whether the request failed before the graphics thread was asked for anything. -/
def isStructural : RegistryError → Bool
  | load _ | split _ => true
  | _ => false

/-- Whether the graphics thread and not the shader was the cause. -/
def isTransient : RegistryError → Bool
  | build (.thread _) => true
  | _ => false

end RegistryError

/-- What a caller names a program by. -/
structure Handle where
  /-- The number of the handle, from one. -/
  id : Nat
  deriving DecidableEq, Repr

/-- The handle as text. -/
def Handle.text (handle : Handle) : Text :=
  "shader#".toList ++ decimal handle.id

/-- A reference to a program object. -/
structure ProgramRef where
  /-- The number of the object, from zero. -/
  serial : Nat
  deriving DecidableEq, Repr

/-- What is known of a name. -/
inductive Status where
  | unloaded
  | loading
  | ready
  | failed
  deriving DecidableEq, Repr

/-- The status as text. -/
def Status.name : Status → String
  | unloaded => "unloaded"
  | loading => "loading"
  | ready => "ready"
  | failed => "failed"

/-- A ready name. -/
structure Entry where
  /-- The handle that callers have. -/
  handle : Handle
  /-- The snapshot that the program was built from. -/
  source : Source
  /-- The program. -/
  program : ProgramRef
  /-- How many references there are. -/
  refs : Nat
  /-- Whether a new program is being built. -/
  reloading : Bool
  deriving DecidableEq, Repr

/-- The state of a name that is not unloaded. -/
inductive Slot where
  | loading
  | ready (entry : Entry)
  /-- The build failed. If a snapshot was taken, it is kept. -/
  | failed (error : RegistryError) (source : Option Source)
  deriving DecidableEq, Repr

/-- A failed build, with the snapshot it got as far as. -/
structure Failure where
  /-- The cause. -/
  error : RegistryError
  /-- The snapshot. -/
  source : Option Source
  deriving DecidableEq, Repr

/-- What a build ends with. -/
abbrev Outcome := Except Failure (Source × ProgramRef)

/-- The table of a registry. -/
structure Slots where
  /-- How many handles were given out. -/
  issued : Nat := 0
  /-- The names that are not unloaded, each once, in the order of their first claim. -/
  slots : List (Text × Slot) := []
  /-- The live handles with their names. -/
  names : List (Handle × Text) := []
  /-- Programs without a name, to be destroyed. -/
  retired : List ProgramRef := []
  deriving DecidableEq, Repr

namespace Slots

/-! ### Looking -/

/-- The state of a name. -/
def slot? (table : Slots) (name : Text) : Option Slot :=
  table.slots.lookup name

/-- The name of a live handle. -/
def name? (table : Slots) (handle : Handle) : Option Text :=
  table.names.lookup handle

/-- The entry of a live handle. -/
def entry? (table : Slots) (handle : Handle) : Option Entry :=
  match (table.name? handle).bind table.slot? with
  | some (.ready entry) => if entry.handle = handle then some entry else none
  | _ => none

/-- The version of the source that the program of a live handle was built from. -/
def sourceVersion? (table : Slots) (handle : Handle) : Option Nat :=
  (table.entry? handle).map fun entry => entry.source.version

/-- The status of a name. -/
def status (table : Slots) (name : Text) : Status :=
  match table.slot? name with
  | none => .unloaded
  | some .loading => .loading
  | some (.ready _) => .ready
  | some (.failed _ _) => .failed

/-- The error that is kept for a name. -/
def failure? (table : Slots) (name : Text) : Option RegistryError :=
  match table.slot? name with
  | some (.failed error _) => some error
  | _ => none

/-- How many references a name has. -/
def refCount (table : Slots) (name : Text) : Nat :=
  match table.slot? name with
  | some (.ready entry) => entry.refs
  | _ => 0

/-- The ready names with their entries, in order of their first claim. -/
def ready (table : Slots) : List (Text × Entry) :=
  table.slots.filterMap fun (name, slot) =>
    match slot with
    | .ready entry => some (name, entry)
    | _ => none

/-- Whether one text comes before another, character by character. -/
def comesBefore : Text → Text → Bool
  | [], _ => true
  | _ :: _, [] => false
  | c :: s, d :: t => if c = d then comesBefore s t else c.toNat < d.toNat

/-- The ready names in alphabetical order. -/
def loaded (table : Slots) : List Text :=
  (table.ready.map Prod.fst).mergeSort comesBefore

/-! ### Changing -/

/-- The table with a state for a name. A name keeps its place. -/
def set (table : Slots) (name : Text) (slot : Slot) : Slots :=
  { table with slots :=
      if (table.slot? name).isSome then
        table.slots.map fun entry => if entry.1 = name then (name, slot) else entry
      else table.slots ++ [(name, slot)] }

/-- The table with a name unloaded. -/
def erase (table : Slots) (name : Text) : Slots :=
  { table with slots := table.slots.filter fun entry => entry.1 ≠ name }

/-- What becomes of a wish for a name. -/
inductive Claim where
  /-- The name is ready, and the caller has a reference more. -/
  | shared (handle : Handle)
  /-- The name failed before. -/
  | refused (error : RegistryError)
  /-- Another caller builds it. -/
  | wait
  /-- The caller is to build it. -/
  | claimed
  deriving DecidableEq, Repr

/-- Asks for a name, which is claimed if it is unloaded. -/
def claim (table : Slots) (name : Text) : Claim × Slots :=
  match table.slot? name with
  | some .loading => (.wait, table)
  | some (.ready entry) =>
    (.shared entry.handle, table.set name (.ready { entry with refs := entry.refs + 1 }))
  | some (.failed error _) => (.refused error, table)
  | none => (.claimed, table.set name .loading)

/-- Records the outcome for a claimed name. A failure of the graphics thread leaves it unloaded. -/
def settle (table : Slots) (name : Text) : Outcome → Except RegistryError Handle × Slots
  | .ok (source, program) =>
    let handle : Handle := ⟨table.issued + 1⟩
    let named := { table with
      issued := table.issued + 1
      names := table.names ++ [(handle, name)] }
    (.ok handle, named.set name (.ready { handle, source, program, refs := 1, reloading := false }))
  | .error failure =>
    if failure.error.isTransient then (.error failure.error, table.erase name)
    else (.error failure.error, table.set name (.failed failure.error failure.source))

/-- Gives a reference back and says whether it was the last one. -/
def release (table : Slots) (handle : Handle) : Except RegistryError Bool × Slots :=
  match table.name? handle, table.entry? handle with
  | some name, some entry =>
    if entry.refs ≤ 1 then
      (.ok true, { table.erase name with
        names := table.names.filter fun named => named.1 ≠ handle
        retired := table.retired ++ [entry.program] })
    else (.ok false, table.set name (.ready { entry with refs := entry.refs - 1 }))
  | _, _ => (.error .unknownHandle, table)

/-- What becomes of a wish for a new program. -/
inductive Mark where
  /-- The caller is to build it from the text that follows this snapshot. -/
  | marked (handle : Handle) (source : Source)
  /-- Another caller builds it. -/
  | wait
  /-- The name is not ready. -/
  | refused
  deriving DecidableEq, Repr

/-- Asks for a new program for a ready name, which is marked. -/
def mark (table : Slots) (name : Text) : Mark × Slots :=
  match table.slot? name with
  | some .loading => (.wait, table)
  | some (.ready entry) =>
    if entry.reloading then (.wait, table)
    else (.marked entry.handle entry.source,
      table.set name (.ready { entry with reloading := true }))
  | some (.failed _ _) | none => (.refused, table)

/-- Records the outcome for a marked name. If its handle is gone, the new program is retired at
once. -/
def replace (table : Slots) (name : Text) (handle : Handle) (outcome : Outcome) :
    Except RegistryError Unit × Slots :=
  match table.slot? name with
  | some (.ready entry) =>
    if entry.handle = handle then
      match outcome with
      | .ok (source, program) =>
        let replaced := table.set name (.ready { entry with source, program, reloading := false })
        (.ok (), { replaced with retired := replaced.retired ++ [entry.program] })
      | .error failure =>
        (.error failure.error, table.set name (.ready { entry with reloading := false }))
    else abandon outcome
  | _ => abandon outcome
where
  /-- Retires a program that came too late. -/
  abandon : Outcome → Except RegistryError Unit × Slots
    | .ok (_, program) =>
      (.error (.notLoaded name), { table with retired := table.retired ++ [program] })
    | .error _ => (.error (.notLoaded name), table)

/-- Forgets a failure and says whether there was one. -/
def clearFailed (table : Slots) (name : Text) : Bool × Slots :=
  match table.slot? name with
  | some (.failed _ _) => (true, table.erase name)
  | _ => (false, table)

/-- A name whose text may have changed. -/
inductive Candidate where
  /-- A ready name with its snapshot. -/
  | ready (source : Source)
  /-- A failed name with the snapshot of the failure, if one was taken. -/
  | failed (source : Option Source)
  deriving DecidableEq, Repr

/-- The names whose texts may have changed. -/
def candidates (table : Slots) : List (Text × Candidate) :=
  table.slots.filterMap fun (name, slot) =>
    match slot with
    | .ready entry => if entry.reloading then none else some (name, .ready entry.source)
    | .failed _ source => some (name, .failed source)
    | .loading => none

/-- Takes out the retired programs that nobody else holds. -/
def sweep (table : Slots) (isHeld : ProgramRef → Bool) : List ProgramRef × Slots :=
  (table.retired.filter fun program => !isHeld program,
    { table with retired := table.retired.filter isHeld })

end Slots

end ShaderBundle
