import ShaderBundle.Proofs.Registry.Holdings
import ShaderBundle.Proofs.Registry.Thread
import ShaderBundle.Registry.Registry

/-!
# Callers and the graphics thread

The whole of a registry at work: callers go through sections of the table, take references to
programs out of it, and hand jobs to the graphics thread, which carries them out one by one in the
order they come in. A job holds the references that it was made with until it is over.

A reference is owned or borrowed. The table owns the programs of ready names and the retired ones,
an outcome that is not recorded yet owns its program, and a job that destroys programs owns them.
Jobs that visit programs borrow them.

## Main definitions

* `Task` is a job with its references, `Scene` everything there is at a moment.
* `Scene.Turn` is what the graphics thread does next, `Scene.Step` what it or a caller does.
* `Scene.Reached`, `Scene.Drains`: steps or turns lead from one scene to another.
* `Scene.closed`: the scene when the registry is closed.

## Implementation notes

Jobs are carried out in turns, and callers may come in between any two of them. A build is one turn,
since callers have no part in it. What a job does with the programs it visits is left open: it may
do anything with any of them as often as it likes, and end at any time, be it because it crashes. So
a job may stand for one look at a program as well as for a whole frame.

A program is deleted by its last holder only. The programs that this fails for, or that a crash
leaves behind, are noted as lost.
-/

namespace ShaderBundle

/-- A job for the graphics thread with the references that it holds. -/
inductive Task where
  /-- Builds a program for a request. -/
  | build (request : Request) (prepared : Registry.Prepared)
  /-- Does something with programs. -/
  | visit (programs : List ProgramRef)
  /-- Destroys programs, in order. -/
  | destroy (programs : List ProgramRef)

namespace Task

/-- The programs that a job owns. -/
def destroyed : Task → List ProgramRef
  | destroy programs => programs
  | build _ _ | visit _ => []

/-- The programs that a job borrows. -/
def visited : Task → List ProgramRef
  | visit programs => programs
  | build _ _ | destroy _ => []

/-- The request that a job builds for. -/
def requests : Task → List Request
  | build request _ => [request]
  | visit _ | destroy _ => []

end Task

/-- What records the outcome for a request. -/
def Request.conclusion : Request → Outcome → Section
  | acquire name, outcome => .settle name outcome
  | reload name handle, outcome => .replace name handle outcome

/-- A section that neither records an outcome nor sweeps. -/
def Section.IsPlain : Section → Prop
  | settle _ _ | replace _ _ _ | sweep _ => False
  | claim _ | release _ | mark _ | clearFailed _ => True

/-- A registry at work. -/
structure Scene (σ : Type) where
  /-- The table, with what callers have of it. -/
  traffic : Traffic := {}
  /-- The graphics thread, with the conversation so far. -/
  thread : Thread (List Event × σ)
  /-- The jobs that callers have made and not handed in yet. -/
  waiting : List Task := []
  /-- The jobs that were handed in, the oldest first. -/
  queue : List Task := []
  /-- The job that is being carried out. -/
  running : Option Task := none
  /-- The outcomes of builds that callers have not recorded yet. -/
  built : List (Request × Outcome) := []
  /-- The programs that nobody owns any more. -/
  lost : List ProgramRef := []

namespace Scene

variable {σ : Type}

/-! ### References -/

/-- The jobs in the order in which they are carried out. -/
def tasks (scene : Scene σ) : List Task :=
  scene.running.toList ++ scene.queue

/-- The references that are owned. -/
def owned (scene : Scene σ) : List ProgramRef :=
  scene.traffic.table.held ++ scene.built.flatMap (fun entry => entry.2.programs) ++
    (scene.waiting ++ scene.tasks).flatMap Task.destroyed

/-- The references that are borrowed. -/
def borrowed (scene : Scene σ) : List ProgramRef :=
  (scene.waiting ++ scene.tasks).flatMap Task.visited

/-- How many references there are to a program. -/
def holders (scene : Scene σ) (ref : ProgramRef) : Nat :=
  (scene.owned ++ scene.borrowed).count ref

/-- The requests that are built for, and those whose outcome is there. -/
def requests (scene : Scene σ) : List Request :=
  (scene.waiting ++ scene.tasks).flatMap Task.requests ++ scene.built.map Prod.fst

/-! ### The graphics thread -/

/-- What a build comes to for the caller. -/
def outcomeOf (prepared : Registry.Prepared) : Except BuildError ProgramRef → Outcome
  | .ok program => .ok (prepared.source, program)
  | .error error => .error ⟨.build error, some prepared.source⟩

/-- The running job builds. -/
def builtNow (scene : Scene σ) (backend : Backend σ) (validate : Bool) (request : Request)
    (prepared : Registry.Prepared) : Scene σ :=
  let answer := scene.thread.build backend.recording prepared.bundle validate
  { scene with
    thread := answer.2
    running := none
    built := scene.built ++ [(request, outcomeOf prepared answer.1)] }

/-- The running job destroys a program, if it is the only one to hold it. The rest is lost if that
crashes. -/
def destroyed (scene : Scene σ) (backend : Backend σ) (ref : ProgramRef)
    (rest : List ProgramRef) : Scene σ :=
  if scene.holders ref = 1 then
    match scene.thread.destroy backend.recording ref with
    | (some (), thread) => { scene with thread, running := some (.destroy rest) }
    | (none, thread) => { scene with thread, running := none, lost := scene.lost ++ rest }
  else { scene with running := some (.destroy rest), lost := scene.lost ++ [ref] }

/-- What the graphics thread does next. -/
inductive Turn (backend : Backend σ) (validate : Bool) (scene : Scene σ) : Scene σ → Prop where
  /-- It takes the oldest job. -/
  | start {task : Task} {rest : List Task} (hidle : scene.running = none)
    (hqueue : scene.queue = task :: rest) :
    Turn backend validate scene { scene with running := some task, queue := rest }
  /-- It builds. -/
  | build {request : Request} {prepared : Registry.Prepared}
    (hrunning : scene.running = some (.build request prepared)) :
    Turn backend validate scene (scene.builtNow backend validate request prepared)
  /-- It does something with a program that the job holds. -/
  | visit {programs : List ProgramRef} (hrunning : scene.running = some (.visit programs))
    {ref : ProgramRef} (href : ref ∈ programs) {program : Program}
    (hprogram : scene.thread.program? ref = some program) (visit : Program.Visit) :
    Turn backend validate scene
      { scene with
        thread := (scene.thread.withProgram ref program (visit.job backend.recording)).2 }
  /-- It makes no program current. -/
  | unuse {programs : List ProgramRef} (hrunning : scene.running = some (.visit programs)) :
    Turn backend validate scene
      { scene with thread := (scene.thread.perform (backend.recording.use none)).2 }
  /-- It is done with the programs. -/
  | leave {programs : List ProgramRef} (hrunning : scene.running = some (.visit programs)) :
    Turn backend validate scene { scene with running := none }
  /-- It destroys the next program. -/
  | destroy {ref : ProgramRef} {rest : List ProgramRef}
    (hrunning : scene.running = some (.destroy (ref :: rest))) :
    Turn backend validate scene (scene.destroyed backend ref rest)
  /-- It has destroyed all programs. -/
  | done (hrunning : scene.running = some (.destroy [])) :
    Turn backend validate scene { scene with running := none }

/-! ### Callers -/

/-- A request comes with what it is to be built from, or it has failed already. -/
def begun (scene : Scene σ) (step : Section) (request : Request) :
    Except Failure Registry.Prepared → Scene σ
  | .ok prepared => { scene with
      traffic := scene.traffic.after step
      waiting := scene.waiting ++ [.build request prepared] }
  | .error failure => { scene with
      traffic := scene.traffic.after step
      built := scene.built ++ [(request, .error failure)] }

/-- Retired programs with one holder are taken out of the table and are to be destroyed. -/
def swept (scene : Scene σ) : Scene σ :=
  let isHeld := fun ref => decide (scene.holders ref ≠ 1)
  { scene with
    traffic := scene.traffic.after (.sweep isHeld)
    waiting := scene.waiting ++
      (scene.traffic.table.sweep isHeld).1.map fun ref => .destroy [ref] }

/-- What the graphics thread or a caller does next. -/
inductive Step (backend : Backend σ) (validate : Bool) (scene : Scene σ) : Scene σ → Prop where
  /-- The graphics thread has a turn. -/
  | turn {later : Scene σ} (h : Turn backend validate scene later) :
    Step backend validate scene later
  /-- A caller goes through a section. -/
  | enter {step : Section} (hplain : step.IsPlain)
    (hinFlight : (scene.traffic.after step).inFlight = scene.traffic.inFlight) :
    Step backend validate scene { scene with traffic := scene.traffic.after step }
  /-- A caller begins a request, with any text behind the name. -/
  | begin {step : Section} (hplain : step.IsPlain) {request : Request}
    (hinFlight : (scene.traffic.after step).inFlight = scene.traffic.inFlight ++ [request])
    (result : Except Failure Registry.Prepared) :
    Step backend validate scene (scene.begun step request result)
  /-- A caller records the outcome of its request. -/
  | conclude {before after : List (Request × Outcome)} {request : Request} {outcome : Outcome}
    (hbuilt : scene.built = before ++ (request, outcome) :: after) :
    Step backend validate scene
      { scene with
        traffic := scene.traffic.after (request.conclusion outcome)
        built := before ++ after }
  /-- A caller sweeps. -/
  | sweep : Step backend validate scene scene.swept
  /-- A caller takes references to ready programs, be it one, all of them or none. -/
  | capture {programs : List ProgramRef}
    (hprograms : ∀ ref ∈ programs, ref ∈ scene.traffic.table.programs) :
    Step backend validate scene { scene with waiting := scene.waiting ++ [.visit programs] }
  /-- A caller hands a job in. -/
  | handOver {before after : List Task} {task : Task}
    (hwaiting : scene.waiting = before ++ task :: after) :
    Step backend validate scene
      { scene with waiting := before ++ after, queue := scene.queue ++ [task] }
  /-- A caller has no use for the references any more. -/
  | drop {before after : List Task} {programs : List ProgramRef}
    (hwaiting : scene.waiting = before ++ .visit programs :: after) :
    Step backend validate scene { scene with waiting := before ++ after }

/-- Steps lead from one scene to another. -/
inductive Reached (backend : Backend σ) (validate : Bool) (scene : Scene σ) : Scene σ → Prop where
  | refl : Reached backend validate scene scene
  | step {middle later : Scene σ} (h : Reached backend validate scene middle)
    (hstep : Step backend validate middle later) : Reached backend validate scene later

/-- The graphics thread leads from one scene to another. -/
inductive Drains (backend : Backend σ) (validate : Bool) (scene : Scene σ) : Scene σ → Prop where
  | refl : Drains backend validate scene scene
  | turn {middle later : Scene σ} (h : Drains backend validate scene middle)
    (hturn : Turn backend validate middle later) : Drains backend validate scene later

/-! ### Beginning and end -/

/-- Nothing was done yet, over a backend in some state. -/
def new (device : σ) : Scene σ :=
  { thread := { device := ([], device) } }

/-- Nobody uses the registry. The graphics thread may still have jobs to do. -/
structure Unused (scene : Scene σ) : Prop where
  /-- No caller has a job to hand in. -/
  waiting : scene.waiting = []
  /-- No request is in flight. -/
  inFlight : scene.traffic.inFlight = []

/-- The registry is closed: there is no table any more, and the last job is to destroy the programs
that it kept. -/
def closed (scene : Scene σ) : Scene σ :=
  { scene with
    traffic := {}
    queue := scene.queue ++
      [.destroy (scene.traffic.table.retired ++ scene.traffic.table.programs)] }

/-- The graphics thread has nothing left to do. -/
structure AtRest (scene : Scene σ) : Prop where
  /-- No job is left. -/
  queue : scene.queue = []
  /-- None is being carried out. -/
  running : scene.running = none

end Scene

end ShaderBundle
