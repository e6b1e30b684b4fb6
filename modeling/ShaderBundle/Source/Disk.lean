import ShaderBundle.Text.Utf8

/-!
# Files and paths

The library asks few things of a file system: what a path leads to and what a file holds. A file
system in memory answers them without a disk.

## Main definitions

* `IoError` is the cause of a failed read.
* `Disk m` is a file system whose answers come in `m`; `Disk.remember` keeps some of them.
* `Path.join`, `Path.parts` and `Path.stem?` work on the text of a path.
* `FileTree` is a file system in memory with a working directory; `FileTree.disk` makes it a `Disk`.

## Implementation notes

A path is followed name by name, so `a/../b` needs the directory `a`, and nothing follows a file,
not even a slash.
-/

namespace ShaderBundle

/-- Why a file could not be read. -/
inductive IoError where
  | notFound
  | notDirectory
  | isDirectory
  /-- The path holds a zero character. -/
  | zeroInPath
  /-- The bytes of the file are not UTF-8. -/
  | notUtf8
  /-- Anything else, in the words of the system. -/
  | other (message : Text)
  deriving DecidableEq, Repr

/-- The cause in words. -/
def IoError.message : IoError → Text
  | notFound => "No such file or directory (os error 2)".toList
  | notDirectory => "Not a directory (os error 20)".toList
  | isDirectory => "Is a directory (os error 21)".toList
  | zeroInPath => "file name contained an unexpected NUL byte".toList
  | notUtf8 => "stream did not contain valid UTF-8".toList
  | other message => message

/-- What a path may lead to. -/
inductive FileKind where
  | file
  | directory
  deriving DecidableEq, Repr

/-- A file system. -/
structure Disk (m : Type → Type) where
  /-- What a path leads to, if it leads anywhere. -/
  kind? : Text → m (Option FileKind)
  /-- The text of a file. -/
  read : Text → m (Except IoError Text)

/-- The answers of a disk for some paths, as a disk that no longer changes. Other paths lead nowhere
on it. -/
def Disk.remember {m : Type → Type} [Monad m] (disk : Disk m) (paths : List Text) :
    m (Disk Id) := do
  let known ← paths.mapM fun path => do
    let kind ← disk.kind? path
    let text ← disk.read path
    return (path, kind, text)
  return {
    kind? := fun path => (known.lookup path).bind fun fact => fact.1
    read := fun path => match known.lookup path with
      | some fact => fact.2
      | none => .error .notFound }

/-! ### Paths -/

namespace Path

/-- The names between slashes. -/
def names : Text → List Text
  | [] => [[]]
  | c :: rest =>
    if c = '/' then [] :: names rest
    else match names rest with
      | [] => [[c]]
      | first :: others => (c :: first) :: others

/-- Whether a path starts at the root. -/
def isAbsolute (path : Text) : Bool :=
  path.head? = some '/'

/-- A path as seen from a directory. An absolute path stays what it is. -/
def join (directory path : Text) : Text :=
  if isAbsolute path || directory.isEmpty then path
  else if directory.getLast? = some '/' then directory ++ path
  else directory ++ '/' :: path

/-- Whether a name stays where it is. -/
def staysPut (name : Text) : Bool :=
  name.isEmpty || name = ['.']

/-- The parts of a path. Two paths with the same parts are equal as paths: doubled slashes, a final
slash and dots behind the first name do not count. -/
def parts (path : Text) : List Text :=
  let named := (names path).filter fun name => !staysPut name
  if isAbsolute path then ['/'] :: named
  else if (names path).head? = some ['.'] then ['.'] :: named
  else named

/-- The last part of a path, unless it is a dot or two. -/
def fileName? (path : Text) : Option Text :=
  match (parts path).getLast? with
  | none => none
  | some name => if name = ['.'] || name = ['.', '.'] || name = ['/'] then none else some name

/-- The last part of a path without what follows its last dot. A name whose only dot comes first is
kept whole. -/
def stem? (path : Text) : Option Text :=
  (fileName? path).map fun name =>
    let front := (name.reverse.dropWhile (· ≠ '.')).drop 1
    if front.isEmpty then name else front.reverse

end Path

/-! ### File systems in memory -/

/-- A file or a directory. -/
inductive FileNode where
  | file (bytes : List UInt8)
  | directory
  deriving DecidableEq, Repr

/-- A file system in memory. -/
structure FileTree where
  /-- The names that lead from the root to the working directory. -/
  here : List Text := []
  /-- What is there, by the names that lead to it from the root. -/
  nodes : List (List Text × FileNode) := []
  deriving DecidableEq, Repr

namespace FileTree

/-- What some names lead to from the root. -/
def node? (tree : FileTree) : List Text → Option FileNode
  | [] => some .directory
  | names => tree.nodes.lookup names

/-- What names lead to from a directory. -/
def follow (tree : FileTree) (directory : List Text) : List Text → Except IoError FileNode
  | [] => .ok .directory
  | name :: rest =>
    if Path.staysPut name then follow tree directory rest
    else if name = ['.', '.'] then follow tree directory.dropLast rest
    else match tree.node? (directory ++ [name]) with
      | none => .error .notFound
      | some .directory => follow tree (directory ++ [name]) rest
      | some (.file bytes) => if rest.isEmpty then .ok (.file bytes) else .error .notDirectory

/-- What a path leads to. -/
def find (tree : FileTree) (path : Text) : Except IoError FileNode :=
  if path.isEmpty then .error .notFound
  else if path.contains '\x00' then .error .zeroInPath
  else tree.follow (if Path.isAbsolute path then [] else tree.here) (Path.names path)

/-- The file system as a disk. -/
def disk (tree : FileTree) : Disk Id where
  kind? path := match tree.find path with
    | .ok (.file _) => some .file
    | .ok .directory => some .directory
    | .error _ => none
  read path := match tree.find path with
    | .ok (.file bytes) => match Utf8.decode? bytes with
      | some text => .ok text
      | none => .error .notUtf8
    | .ok .directory => .error .isDirectory
    | .error cause => .error cause

/-- The names that a path takes from a directory, with dots resolved in the text alone. -/
def namesFrom (directory : List Text) : List Text → List Text
  | [] => directory
  | name :: rest =>
    if Path.staysPut name then namesFrom directory rest
    else if name = ['.', '.'] then namesFrom directory.dropLast rest
    else namesFrom (directory ++ [name]) rest

/-- The names of a path from the root. -/
def address (tree : FileTree) (path : Text) : List Text :=
  namesFrom (if Path.isAbsolute path then [] else tree.here) (Path.names path)

/-- Puts a node in its place. -/
def put (tree : FileTree) (names : List Text) (node : FileNode) : FileTree :=
  { tree with nodes := (names, node) :: tree.nodes.filter fun entry => entry.1 ≠ names }

/-- Makes directories, each in the one before it, from within a directory. -/
def makeDirectories (tree : FileTree) (directory : List Text) : List Text → FileTree
  | [] => tree
  | name :: rest =>
    makeDirectories (tree.put (directory ++ [name]) .directory) (directory ++ [name]) rest

/-- Makes a directory and those above it. -/
def makeDirectory (tree : FileTree) (names : List Text) : FileTree :=
  makeDirectories tree [] names

/-- Writes a file, whose directory is made if need be. A path with a final slash is a directory. -/
def write (tree : FileTree) (path : Text) (bytes : List UInt8) : FileTree :=
  let names := tree.address path
  if path.getLast? = some '/' then tree.makeDirectory names
  else (tree.makeDirectory names.dropLast).put names (.file bytes)

/-- Deletes a file and says whether there was one. -/
def delete (tree : FileTree) (path : Text) : Bool × FileTree :=
  match tree.find path with
  | .ok (.file _) =>
    (true, { tree with nodes := tree.nodes.filter fun entry => entry.1 ≠ tree.address path })
  | _ => (false, tree)

/-- An empty file system whose working directory is given by its names. -/
def atDirectory (here : List Text) : FileTree :=
  makeDirectory { here } here

end FileTree

end ShaderBundle
