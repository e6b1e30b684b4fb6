import ShaderBundle.Graphics.Worker
import ShaderBundle.Registry.Slots

/-!
# The graphics thread

One thread owns the backend. Callers hand it jobs, which it carries out in the order they come in.
Some callers wait for the answer, others leave an order in the queue and go on.

## Main definitions

* `Order` is a job that nobody waits for.
* `Thread σ` is the thread: the backend's state, the program objects and the queue.
* `Thread.submit` queues an order, `Thread.drain` carries the queue out, `Thread.perform` carries a
  job out now.

## Implementation notes

An order holds the programs it speaks of, and so does the job that is running. A program object that
is destroyed is gone; orders about it do nothing.

A job that crashes keeps what it did to the backend. The thread goes on with the next job.
-/

namespace ShaderBundle

/-- A job that nobody waits for. -/
inductive Order where
  /-- Destroys programs, in order. -/
  | destroy (programs : List ProgramRef)
  /-- Makes a program current. -/
  | bind (program : ProgramRef)
  /-- Makes no program current. -/
  | unbind
  deriving DecidableEq, Repr

/-- The programs that an order holds. -/
def Order.programs : Order → List ProgramRef
  | destroy programs => programs
  | bind program => [program]
  | unbind => []

/-- The graphics thread. -/
structure Thread (σ : Type) where
  /-- The state of the backend. -/
  device : σ
  /-- The program objects that are not destroyed. -/
  programs : List (ProgramRef × Program) := []
  /-- How many program objects were made. -/
  made : Nat := 0
  /-- The orders that wait, the oldest first. -/
  queue : List Order := []
  /-- The programs that the running job holds. -/
  running : List ProgramRef := []
  deriving Repr

namespace Thread

variable {σ : Type}

/-- The program object behind a reference. -/
def program? (thread : Thread σ) (ref : ProgramRef) : Option Program :=
  thread.programs.lookup ref

/-- Whether an order or the running job holds a program. -/
def holds (thread : Thread σ) (ref : ProgramRef) : Bool :=
  thread.running.contains ref || thread.queue.any fun order => order.programs.contains ref

/-- Queues an order. -/
def submit (thread : Thread σ) (order : Order) : Thread σ :=
  { thread with queue := thread.queue ++ [order] }

/-- Carries a job out now. -/
def perform {α : Type} (thread : Thread σ) (job : Job σ α) : Option α × Thread σ :=
  let (answer, device) := job.run thread.device
  (answer, { thread with device })

/-- Keeps a program object. -/
def keep (thread : Thread σ) (program : Program) : ProgramRef × Thread σ :=
  let ref : ProgramRef := ⟨thread.made⟩
  (ref, { thread with programs := thread.programs ++ [(ref, program)], made := thread.made + 1 })

/-- Changes a program object. -/
def store (thread : Thread σ) (ref : ProgramRef) (program : Program) : Thread σ :=
  { thread with programs := thread.programs.map fun kept =>
      if kept.1 = ref then (ref, program) else kept }

/-- Destroys a program object. It is gone even if the backend crashes over it. -/
def destroy (backend : Backend σ) (thread : Thread σ) (ref : ProgramRef) : Option Unit × Thread σ :=
  match thread.program? ref with
  | none => (some (), thread)
  | some program =>
    let (answer, thread) := thread.perform (backend.deleteProgram program.id)
    (answer, { thread with programs := thread.programs.filter fun kept => kept.1 ≠ ref })

/-- Destroys program objects in order. A crash ends that. -/
def destroyAll (backend : Backend σ) : List ProgramRef → Thread σ → Thread σ
  | [], thread => thread
  | ref :: rest, thread =>
    match thread.destroy backend ref with
    | (some (), thread) => destroyAll backend rest thread
    | (none, thread) => thread

/-- Carries an order out. -/
def obey (backend : Backend σ) (thread : Thread σ) : Order → Thread σ
  | .destroy programs => thread.destroyAll backend programs
  | .bind ref =>
    match thread.program? ref with
    | none => thread
    | some program => (thread.perform (backend.use (some program.id))).2
  | .unbind => (thread.perform (backend.use none)).2

/-- Carries all orders out. -/
def drain (backend : Backend σ) (thread : Thread σ) : Thread σ :=
  thread.queue.foldl (obey backend) { thread with queue := [] }

/-- Builds a bundle now. Orders that wait came in after the build. -/
def build (backend : Backend σ) (thread : Thread σ) (bundle : Bundle) (validate : Bool) :
    Except BuildError ProgramRef × Thread σ :=
  match thread.perform (Build.build backend bundle validate) with
  | (none, thread) => (.error (.thread .unavailable), thread)
  | (some (.error error), thread) => (.error error, thread)
  | (some (.ok program), thread) =>
    let (ref, thread) := thread.keep program
    (.ok ref, thread)

/-- Does something with a program object that may change what it remembers. -/
def withProgram {α : Type} (thread : Thread σ) (ref : ProgramRef) (program : Program)
    (job : Program → Job σ (α × Program)) : Option α × Thread σ :=
  match thread.perform (job program) with
  | (some (answer, program), thread) => (some answer, thread.store ref program)
  | (none, thread) => (none, thread)

end Thread

end ShaderBundle
