import ShaderBundle.Registry.Thread

/-!
# The shader registry

Callers ask the registry for programs by name. The first one to ask has the program built: the
source is loaded, split, compiled and linked. The others share it.

## Main definitions

* `Registry σ` is a registry: its table of names and its graphics thread.
* `Registry.acquire`, `Registry.release`, `Registry.reload` and `Registry.reloadChanged` look after
  programs; `Registry.uniform`, `Registry.bind` and the like use them.
* `Registry.run` has a job done with all programs in reach, as `Frame` describes.

## Implementation notes

Requests that build come in two halves, with the build between them: `beginAcquire` and
`finishAcquire`, `beginReload` and `finishReload`. Between the halves other callers may do anything.
A caller that finds a name being built waits until it is not, so it has no part in what happens
meanwhile; the whole requests here are those of a caller that nobody gets in the way of.
-/

namespace ShaderBundle

/-- What a registry works with. -/
structure RegistryOptions where
  /-- How files are split. -/
  split : SplitOptions := {}
  /-- Whether programs are validated after linking. -/
  validate : Bool := true
  deriving DecidableEq, Repr

/-- A registry. -/
structure Registry (σ : Type) where
  /-- The table of names. -/
  table : Slots := {}
  /-- The graphics thread. -/
  thread : Thread σ

/-- What the operations of a registry have at hand. -/
structure Surroundings (σ : Type) where
  /-- The backend on the graphics thread. -/
  backend : Backend σ
  /-- The present texts behind names. -/
  loader : Loader Id
  /-- The options. -/
  options : RegistryOptions := {}

namespace Registry

variable {σ : Type}

/-! ### Building -/

/-- A source that is ready to be compiled. -/
structure Prepared where
  /-- The snapshot. -/
  source : Source
  /-- The file taken apart. -/
  bundle : Bundle
  deriving DecidableEq, Repr

/-- The snapshot to build from: the present text, as the next version of an earlier snapshot if the
text is another one. -/
def snapshot (loader : Loader Id) (name : Text) : Option Source → Except Failure Source
  | none =>
    match loader.load name with
    | .ok source => .ok source
    | .error error => .error ⟨.load error, none⟩
  | some previous =>
    match loader.refresh previous with
    | .ok (some fresh) => .ok fresh
    | .ok none => .ok previous
    | .error error => .error ⟨.load error, some previous⟩

/-- Takes a snapshot and splits it. -/
def prepare (around : Surroundings σ) (name : Text) (previous : Option Source) :
    Except Failure Prepared :=
  match snapshot around.loader name previous with
  | .error failure => .error failure
  | .ok source =>
    match Bundle.split around.options.split source.name source.text with
    | .ok bundle => .ok ⟨source, bundle⟩
    | .error error => .error ⟨.split error, some source⟩

/-- Has a prepared source built. -/
def construct (around : Surroundings σ) (thread : Thread σ) (prepared : Prepared) :
    Outcome × Thread σ :=
  match thread.build around.backend prepared.bundle around.options.validate with
  | (.ok program, thread) => (.ok (prepared.source, program), thread)
  | (.error error, thread) => (.error ⟨.build error, some prepared.source⟩, thread)

/-- Orders the destruction of retired programs that nobody holds. -/
def sweep (registry : Registry σ) : Registry σ :=
  let (idle, table) := registry.table.sweep registry.thread.holds
  { table, thread := idle.foldl (fun thread program => thread.submit (.destroy [program]))
      registry.thread }

/-! ### Acquiring and releasing -/

/-- The first half of a request: it is answered, it has to wait, or it goes on with a build, which
the graphics thread has come to. -/
inductive Begun (α : Type) where
  | answered (answer : α)
  | wait
  | building (prepared : Prepared)
  deriving DecidableEq, Repr

/-- The answer to a request for a name. -/
abbrev Acquired := Except RegistryError Handle

/-- Lets the graphics thread carry out the orders that wait. -/
def catchUp (around : Surroundings σ) (registry : Registry σ) : Registry σ :=
  { registry with thread := registry.thread.drain around.backend }

/-- The first half of a request for a name. Jobs may not make one. -/
def beginAcquire (around : Surroundings σ) (caller : Caller) (name : Text) (registry : Registry σ) :
    Begun Acquired × Registry σ :=
  match caller with
  | .job => (.answered (.error (.thread .reentrant)), registry)
  | .outside =>
    match registry.table.claim name with
    | (.shared handle, table) => (.answered (.ok handle), { registry with table })
    | (.refused error, table) => (.answered (.error error), { registry with table })
    | (.wait, table) => (.wait, { registry with table })
    | (.claimed, table) =>
      match prepare around name none with
      | .ok prepared => (.building prepared, catchUp around { registry with table })
      | .error failure =>
        let (answer, table) := table.settle name (.error failure)
        (.answered answer, { registry with table })

/-- The second half of a request for a name. -/
def finishAcquire (name : Text) (outcome : Outcome) (registry : Registry σ) :
    Acquired × Registry σ :=
  let (answer, table) := registry.table.settle name outcome
  (answer, { registry with table })

/-- The build between the halves of a request. Orders that came in meanwhile follow it. -/
def buildNow (around : Surroundings σ) (prepared : Prepared) (registry : Registry σ) :
    Outcome × Registry σ :=
  let (outcome, thread) := construct around registry.thread prepared
  (outcome, catchUp around { registry with thread })

/-- A handle for a name, whose program is built if need be. A request that would have to wait for
another caller fails, since there is none. -/
def acquire (around : Surroundings σ) (caller : Caller) (name : Text) (registry : Registry σ) :
    Acquired × Registry σ :=
  match beginAcquire around caller name registry with
  | (.answered answer, registry) => (answer, registry)
  | (.wait, registry) => (.error (.thread .unavailable), registry)
  | (.building prepared, registry) =>
    let (outcome, registry) := buildNow around prepared registry
    finishAcquire name outcome registry

/-- Gives a reference back. With the last one, the program is retired. -/
def release (handle : Handle) (registry : Registry σ) : Except RegistryError Unit × Registry σ :=
  match registry.table.release handle with
  | (.error error, _) => (.error error, registry)
  | (.ok false, table) => (.ok (), { registry with table })
  | (.ok true, table) => (.ok (), sweep { registry with table })

/-! ### Reloading -/

/-- The answer to a request for a new program. -/
abbrev Reloaded := Except RegistryError Unit

/-- The second half of a request for a new program. -/
def finishReload (name : Text) (handle : Handle) (outcome : Outcome) (registry : Registry σ) :
    Reloaded × Registry σ :=
  let (answer, table) := registry.table.replace name handle outcome
  (answer, sweep { registry with table })

/-- The first half of a request for a new program. Jobs may not make one. If it goes on, the handle
of the name is given too. -/
def beginReload (around : Surroundings σ) (caller : Caller) (name : Text) (registry : Registry σ) :
    Begun Reloaded × Handle × Registry σ :=
  match caller with
  | .job => (.answered (.error (.thread .reentrant)), ⟨0⟩, registry)
  | .outside =>
    match registry.table.mark name with
    | (.refused, _) => (.answered (.error (.notLoaded name)), ⟨0⟩, registry)
    | (.wait, _) => (.wait, ⟨0⟩, registry)
    | (.marked handle source, table) =>
      match prepare around name (some source) with
      | .ok prepared => (.building prepared, handle, catchUp around { registry with table })
      | .error failure =>
        let (answer, registry) := finishReload name handle (.error failure) { registry with table }
        (.answered answer, handle, registry)

/-- Builds a new program for a ready name. The old one stays if that fails. -/
def reload (around : Surroundings σ) (caller : Caller) (name : Text) (registry : Registry σ) :
    Reloaded × Registry σ :=
  match beginReload around caller name registry with
  | (.answered answer, _, registry) => (answer, registry)
  | (.wait, _, registry) => (.error (.thread .unavailable), registry)
  | (.building prepared, handle, registry) =>
    let (outcome, registry) := buildNow around prepared registry
    finishReload name handle outcome registry

/-- What is to be done about a name whose text may have changed. -/
inductive Change where
  | nothing
  /-- The text of a ready name could not be read. -/
  | unreadable (error : LoadError)
  /-- The text of a ready name is another one. -/
  | reload
  /-- The text of a failed name is another one. -/
  | forget
  deriving DecidableEq, Repr

/-- Whether the text behind a name has changed. -/
def changeOf (loader : Loader Id) (name : Text) : Slots.Candidate → Change
  | .ready source =>
    match loader.refresh source with
    | .ok none => .nothing
    | .ok (some _) => .reload
    | .error error => .unreadable error
  | .failed (some source) =>
    match loader.refresh source with
    | .ok (some _) => .forget
    | _ => .nothing
  | .failed none =>
    match loader.load name with
    | .ok _ => .forget
    | .error _ => .nothing

/-- Whether the answer to a request for a new program is worth a report. A name that is not ready
any more is not. -/
def worthReporting (name : Text) : Reloaded → List (Text × RegistryError)
  | .ok () | .error (.notLoaded _) => []
  | .error error => [(name, error)]

/-- Reloads ready names and forgets failed ones, as far as their texts have changed. The names that
could not be reloaded are reported. -/
def reloadChangedOf (around : Surroundings σ) (caller : Caller) :
    List (Text × Slots.Candidate) → Registry σ → List (Text × RegistryError) × Registry σ
  | [], registry => ([], registry)
  | (name, candidate) :: rest, registry =>
    let (report, registry) := match changeOf around.loader name candidate with
      | .nothing => ([], registry)
      | .unreadable error => ([(name, RegistryError.load error)], registry)
      | .forget => ([], { registry with table := (registry.table.clearFailed name).2 })
      | .reload =>
        let (answer, registry) := reload around caller name registry
        (worthReporting name answer, registry)
    let (reports, registry) := reloadChangedOf around caller rest registry
    (report ++ reports, registry)

/-- Does so for all names. -/
def reloadChanged (around : Surroundings σ) (caller : Caller) (registry : Registry σ) :
    List (Text × RegistryError) × Registry σ :=
  reloadChangedOf around caller registry.table.candidates registry

/-! ### Using programs -/

/-- The program of a live handle. -/
def program? (registry : Registry σ) (handle : Handle) : Option (ProgramRef × Program) :=
  (registry.table.entry? handle).bind fun entry =>
    (registry.thread.program? entry.program).map fun program => (entry.program, program)

/-- The stages of a program. -/
def stages? (registry : Registry σ) (handle : Handle) : Option (List Stage) :=
  (registry.program? handle).map fun found => found.2.stages

/-- Has something done with a program, behind the orders that wait. -/
def ask {α : Type} (around : Surroundings σ) (caller : Caller) (handle : Handle)
    (job : Program → Job σ (α × Program)) (registry : Registry σ) :
    Except RegistryError α × Registry σ :=
  match caller with
  | .job =>
    match registry.program? handle with
    | none => (.error .unknownHandle, registry)
    | some _ => (.error (.thread .reentrant), registry)
  | .outside =>
    match registry.program? handle with
    | none => (.error .unknownHandle, registry)
    | some (ref, _) =>
      let thread := registry.thread.drain around.backend
      match thread.program? ref with
      | none => (.error .unknownHandle, { registry with thread })
      | some program =>
        match thread.withProgram ref program job with
        | (some answer, thread) => (.ok answer, { registry with thread })
        | (none, thread) => (.error (.thread .unavailable), { registry with thread })

/-- The location of a uniform. What is remembered needs no job; a question that cannot be put counts
as an inactive name. -/
def uniform (around : Surroundings σ) (caller : Caller) (handle : Handle) (name : Text)
    (registry : Registry σ) : Option Location × Registry σ :=
  match (registry.program? handle).bind fun found => found.2.uniforms.get? name with
  | some answer => (answer, registry)
  | none =>
    match ask around caller handle (fun program => program.locateUniform around.backend name)
      registry with
    | (.ok answer, registry) => (answer, registry)
    | (.error _, registry) => (none, registry)

/-- The location of an attribute, in the same way. -/
def attributeLocation (around : Surroundings σ) (caller : Caller) (handle : Handle) (name : Text)
    (registry : Registry σ) : Option Location × Registry σ :=
  match (registry.program? handle).bind fun found => found.2.attributes.get? name with
  | some answer => (answer, registry)
  | none =>
    match ask around caller handle (fun program => program.locateAttribute around.backend name)
      registry with
    | (.ok answer, registry) => (answer, registry)
    | (.error _, registry) => (none, registry)

/-- The uniforms of a program. -/
def uniforms (around : Surroundings σ) (caller : Caller) (handle : Handle) (registry : Registry σ) :
    Except RegistryError (List UniformInfo) × Registry σ :=
  ask around caller handle (fun program => do
    return (← around.backend.activeUniforms program.id, program)) registry

/-- Writes a uniform and says whether it is active. -/
def setUniform (around : Surroundings σ) (caller : Caller) (handle : Handle) (name : Text)
    (value : UniformValue) (registry : Registry σ) : Except RegistryError Bool × Registry σ :=
  ask around caller handle (fun program => program.set around.backend name value) registry

/-- Orders a program to be made current. An unknown handle orders nothing. -/
def bind (handle : Handle) (registry : Registry σ) : Registry σ :=
  match registry.program? handle with
  | none => registry
  | some (ref, _) => { registry with thread := registry.thread.submit (.bind ref) }

/-- Orders that no program be current. -/
def unbind (registry : Registry σ) : Registry σ :=
  { registry with thread := registry.thread.submit .unbind }

/-! ### Frames -/

/-- What a job of `run` has in reach: the programs that were ready when it was handed in. -/
structure Frame where
  /-- The programs by handle. -/
  programs : List (Handle × ProgramRef)
  deriving DecidableEq, Repr

/-- The programs in reach now. -/
def frame (registry : Registry σ) : Frame :=
  ⟨registry.table.ready.map fun (_, entry) => (entry.handle, entry.program)⟩

/-- Has a job done on the graphics thread. The job may change the registry, and it may crash; while
it runs, it holds the programs in its reach. -/
def run {α : Type} (around : Surroundings σ) (caller : Caller)
    (job : Frame → Registry σ → Option α × Registry σ) (registry : Registry σ) :
    Except RegistryError α × Registry σ :=
  match caller with
  | .job => (.error (.thread .reentrant), sweep registry)
  | .outside =>
    let frame := registry.frame
    let thread := registry.thread.drain around.backend
    let started := { registry with
      thread := { thread with running := frame.programs.map Prod.snd } }
    let (answer, registry) := job frame started
    let registry := sweep { registry with thread := { registry.thread with running := [] } }
    match answer with
    | some answer => (.ok answer, registry)
    | none => (.error (.thread .unavailable), registry)

namespace Frame

/-- Does something with a program in reach. -/
def withProgram {α : Type} (frame : Frame) (handle : Handle) (otherwise : α)
    (job : Program → Job σ (α × Program)) (registry : Registry σ) : Option α × Registry σ :=
  match frame.programs.lookup handle with
  | none => (some otherwise, registry)
  | some ref =>
    match registry.thread.program? ref with
    | none => (some otherwise, registry)
    | some program =>
      let (answer, thread) := registry.thread.withProgram ref program job
      (answer, { registry with thread })

/-- Makes a program current and says whether the handle is known. -/
def bind (backend : Backend σ) (frame : Frame) (handle : Handle) (registry : Registry σ) :
    Option Bool × Registry σ :=
  frame.withProgram handle false (fun program => do
    backend.use (some program.id)
    return (true, program)) registry

/-- Makes no program current. -/
def unbind (backend : Backend σ) (registry : Registry σ) : Option Unit × Registry σ :=
  let (answer, thread) := registry.thread.perform (backend.use none)
  (answer, { registry with thread })

/-- The location of a uniform. -/
def uniform (backend : Backend σ) (frame : Frame) (handle : Handle) (name : Text)
    (registry : Registry σ) : Option (Option Location) × Registry σ :=
  frame.withProgram handle none (fun program => program.locateUniform backend name) registry

/-- The location of an attribute. -/
def attributeLocation (backend : Backend σ) (frame : Frame) (handle : Handle) (name : Text)
    (registry : Registry σ) : Option (Option Location) × Registry σ :=
  frame.withProgram handle none (fun program => program.locateAttribute backend name) registry

/-- Writes a uniform and says whether it is active. -/
def setUniform (backend : Backend σ) (frame : Frame) (handle : Handle) (name : Text)
    (value : UniformValue) (registry : Registry σ) : Option Bool × Registry σ :=
  frame.withProgram handle false (fun program => program.set backend name value) registry

end Frame

/-! ### Coming to rest -/

/-- Waits until the queue is empty. Programs that orders held are swept afterwards. -/
def rest (around : Surroundings σ) (registry : Registry σ) : Registry σ :=
  let drained := sweep { registry with thread := registry.thread.drain around.backend }
  { drained with thread := drained.thread.drain around.backend }

/-- Destroys all programs of a registry that nobody uses any more. -/
def close (around : Surroundings σ) (registry : Registry σ) : Thread σ :=
  let programs := registry.table.retired ++ registry.table.ready.map fun (_, entry) => entry.program
  (registry.thread.submit (.destroy programs)).drain around.backend

end Registry

end ShaderBundle
