import ShaderBundle.Command.Check
import ShaderBundle.Glsl.Shader
import ShaderBundle.Registry.Registry
import ShaderBundle.Settings.Settings

/-!
# Watching shaders

Shaders are loaded by name and built again whenever their files change. What happens is told in
lines, and an error that stays the same is told once.

## Main definitions

* `Watch` says what is watched and how.
* `Watcher` is what is known between two polls; `Watch.start` begins and `Watch.poll` looks for
  changes once.
* `Watch.transcript` is all that is told over some polls of a disk that stays the same.
* `Watch.places` are the paths that a poll may look at.

## Implementation notes

A shader that was never built is not tried again before its file changes: the registry keeps its
failure until then, and the poll that finds the change forgets it.
-/

namespace ShaderBundle.Command

/-- The headless backend over the front end that the program comes with. -/
def headless : Backend Headless.State :=
  Headless.backend Glsl.compile

/-- What is watched. -/
structure Watch where
  /-- The names of the shaders. -/
  names : List Text
  /-- Where files are searched, in order. -/
  roots : List Text
  /-- How shaders are built. -/
  options : RegistryOptions
  /-- The time between two polls. -/
  interval : Duration
  /-- How many polls there are, if there is an end to them. -/
  polls : Option Nat
  deriving DecidableEq, Repr

/-- What is known between two polls. -/
structure Watcher where
  /-- The registry of the shaders. -/
  registry : Registry Headless.State := { thread := { device := {} } }
  /-- The shaders that were built, in that order. -/
  handles : List (Text × Handle) := []
  /-- The errors that were told, by name. -/
  told : List (Text × Text) := []

namespace Watch

/-- The watch that settings and arguments ask for. Roots among the arguments come first. -/
def ofSettings (settings : Settings) (names roots : List Text) (interval : Option Duration)
    (polls : Option Nat) : Watch where
  names
  roots := roots ++ settings.roots
  options := ⟨⟨settings.nativePragmas⟩, settings.validates⟩
  interval := interval.getD settings.interval
  polls

/-- What the registry works with. -/
def around (watch : Watch) (disk : Disk Id) : Surroundings Headless.State :=
  ⟨headless, Loader.ofRoots disk watch.roots, watch.options⟩

/-- A message below the line that it belongs to. -/
def insetMessage (message : Text) : Text :=
  Text.unlines (inset message)

/-- What is told of a shader that was built. -/
def readyLine (name : Text) (stages : List Stage) : Text :=
  "ready   ".toList ++ name ++ " (".toList ++ (Stage.listNames stages).toList ++ ")\n".toList

/-- What is told of a shader that was not built. -/
def failedLines (name message : Text) : Text :=
  "failed  ".toList ++ name ++ '\n' :: insetMessage message ++ ['\n']

/-- What is told of a shader that stays what it was. -/
def keptLines (name message : Text) : Text :=
  "failed  ".toList ++ name ++ " (keeping previous program)\n".toList ++ insetMessage message ++
    ['\n']

/-- What is told of a shader that was built again. -/
def reloadLine (name : Text) : Text :=
  "reload  ".toList ++ name ++ ['\n']

/-- Builds a shader that is not there, unless it failed before. -/
def acquire (watch : Watch) (disk : Disk Id) (name : Text) (watcher : Watcher) : Text × Watcher :=
  if (watcher.handles.lookup name).isSome || (watcher.registry.table.failure? name).isSome then
    ([], watcher)
  else match watcher.registry.acquire (watch.around disk) .outside name with
    | (.ok handle, registry) =>
      (readyLine name ((registry.stages? handle).getD []),
        { watcher with registry, handles := watcher.handles ++ [(name, handle)] })
    | (.error error, registry) => (failedLines name error.message, { watcher with registry })

/-- Builds the shaders that are not there, in order. -/
def acquireAll (watch : Watch) (disk : Disk Id) : List Text → Watcher → Text × Watcher
  | [], watcher => ([], watcher)
  | name :: rest, watcher =>
    let (first, watcher) := watch.acquire disk name watcher
    let (others, watcher) := acquireAll watch disk rest watcher
    (first ++ others, watcher)

/-- Begins to watch. -/
def start (watch : Watch) (disk : Disk Id) : Text × Watcher :=
  watch.acquireAll disk watch.names {}

/-- Tells the errors of shaders that were not built again, as far as they are new, and keeps them in
mind. -/
def tellErrors (told : List (Text × Text)) : List (Text × RegistryError) → Text × List (Text × Text)
  | [] => ([], told)
  | (name, error) :: rest =>
    if told.lookup name = some error.message then tellErrors told rest
    else
      let (others, told) := tellErrors ((name, error.message) :: told) rest
      (keptLines name error.message ++ others, told)

/-- Tells which shaders are not those of an earlier registry any more. -/
def tellReloads (before after : Registry Headless.State) (handles : List (Text × Handle)) : Text :=
  handles.flatMap fun (name, handle) =>
    if before.table.sourceVersion? handle = after.table.sourceVersion? handle then []
    else reloadLine name

/-- Looks for changes once. -/
def poll (watch : Watch) (disk : Disk Id) (watcher : Watcher) : Text × Watcher :=
  let (reports, registry) := watcher.registry.reloadChanged (watch.around disk) .outside
  let (errors, told) := tellErrors watcher.told reports
  let told := told.filter fun pair => reports.any fun report => report.1 = pair.1
  let reloads := tellReloads watcher.registry registry watcher.handles
  let (fresh, watcher) := watch.acquireAll disk watch.names { watcher with registry, told }
  (errors ++ reloads ++ fresh, watcher)

/-- What is told over some polls of a disk that stays the same. -/
def pollMany (watch : Watch) (disk : Disk Id) : Nat → Watcher → Text
  | 0, _ => []
  | n + 1, watcher =>
    let (first, watcher) := watch.poll disk watcher
    first ++ pollMany watch disk n watcher

/-- All that is told by a watch over some polls of a disk that stays the same. -/
def transcript (watch : Watch) (disk : Disk Id) (polls : Nat) : Text :=
  let (first, watcher) := watch.start disk
  first ++ watch.pollMany disk polls watcher

/-- The paths that a watch may look at: the names themselves, and each name below each root. -/
def places (watch : Watch) : List Text :=
  watch.names ++ watch.names.flatMap fun name => watch.roots.map fun root => Path.join root name

end Watch

end ShaderBundle.Command
