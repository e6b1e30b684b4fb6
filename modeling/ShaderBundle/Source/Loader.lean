import ShaderBundle.Source.Disk
import ShaderBundle.Text.Quoted

/-!
# Shader sources

A source is a snapshot of the text behind a logical name. Loaders take snapshots; a later snapshot
of the same name with other text is the next version.

## Main definitions

* `Source` is a snapshot; `Source.sameContent` compares texts alone.
* `LoadError` is the cause of a failed load.
* `Loader m` takes snapshots, `Loader.refresh` only of changed text.
* `Loader.ofRoots` reads files below search roots, `Loader.ofTable` a table in memory.
-/

namespace ShaderBundle

/-- A snapshot of the text behind a name. -/
structure Source where
  /-- The logical name. -/
  name : Text
  /-- The text. -/
  text : Text
  /-- The number of the snapshot among those of this name, from one. -/
  version : Nat := 1
  /-- The file that the text was read from. -/
  path : Option Text := none
  deriving DecidableEq, Repr

namespace Source

/-- The greatest version. -/
def lastVersion : Nat := 18446744073709551615

/-- Whether two snapshots hold the same text. -/
def sameContent (source other : Source) : Bool :=
  source.text = other.text

/-- The snapshot as the version after `previous`. -/
def succeeding (source previous : Source) : Source :=
  { source with version := min (previous.version + 1) lastVersion }

/-- Whether two snapshots agree in everything. Their files are compared as paths. -/
def same (source other : Source) : Bool :=
  source.name = other.name && source.text = other.text && source.version = other.version &&
    source.path.map Path.parts = other.path.map Path.parts

end Source

/-- Why no snapshot was taken. -/
inductive LoadError where
  /-- No file has the name. The paths that were tried are listed. -/
  | notFound (name : Text) (searched : List Text)
  /-- A file could not be read. -/
  | unreadable (name path : Text) (cause : IoError)
  deriving DecidableEq, Repr

/-- The cause in words. -/
def LoadError.message : LoadError → Text
  | notFound name searched =>
    "shader '".toList ++ name ++ "' not found (searched ".toList ++ Text.quoteAll searched ++ [')']
  | unreadable name path cause =>
    "failed to read shader '".toList ++ name ++ "' from ".toList ++ path ++ ": ".toList ++
      cause.message

/-- Takes snapshots by name. -/
structure Loader (m : Type → Type) where
  /-- The present text behind a name. -/
  load : Text → m (Except LoadError Source)

namespace Loader

variable {m : Type → Type} [Monad m]

/-- What a fresh snapshot tells about an earlier one: nothing if the text is the same, else the next
version. -/
def change (previous fresh : Source) : Option Source :=
  if fresh.sameContent previous then none else some (fresh.succeeding previous)

/-- The next version of a snapshot, if the text has changed. -/
def refresh (loader : Loader m) (previous : Source) : m (Except LoadError (Option Source)) := do
  match ← loader.load previous.name with
  | .error error => return .error error
  | .ok fresh => return .ok (change previous fresh)

/-- The roots that are searched when none are given. -/
def usualRoots : List Text := ["shaders".toList]

/-- The paths at which a name is looked for. A name that is a path already is not searched for. -/
def candidates (disk : Disk m) (roots : List Text) (name : Text) : m (List Text) := do
  if Path.isAbsolute name then return [name]
  match ← disk.kind? name with
  | some _ => return [name]
  | none => return roots.map fun root => Path.join root name

/-- The first of some paths that leads to a file. -/
def firstFile? (disk : Disk m) : List Text → m (Option Text)
  | [] => return none
  | path :: rest => do
    match ← disk.kind? path with
    | some .file => return some path
    | _ => firstFile? disk rest

/-- Loads files below the roots, which are tried in order. -/
def ofRoots (disk : Disk m) (roots : List Text) : Loader m where
  load name := do
    if name.isAllBlank then return .error (.notFound name [])
    let paths ← candidates disk roots name
    match ← firstFile? disk paths with
    | none => return .error (.notFound name paths)
    | some path =>
      match ← disk.read path with
      | .ok text => return .ok { name, text, path := some path }
      | .error cause => return .error (.unreadable name path cause)

/-- Loads texts from a table of names. -/
def ofTable (table : List (Text × Text)) : Loader m where
  load name := match table.lookup name with
    | some text => pure (.ok { name, text })
    | none => pure (.error (.notFound name []))

end Loader

end ShaderBundle
