import ShaderBundle.Graphics.Build

/-!
# The thread of a backend

A backend belongs to one thread. Other threads hand it jobs and wait for the answer, or hand it jobs
and go on; it carries jobs out in the order they come in.

## Main definitions

* `Caller` tells who makes a request.
* `Worker σ` is the thread: the backend's state and the jobs that nobody waits for.
* `Worker.submit` queues a job, `Worker.call` waits for one.
* `ThreadError.ofChain` and `ThreadError.crashed` are the failures to start a thread.

## Implementation notes

A job that crashes keeps what it did to the backend, and the thread goes on with the next one. A job
cannot wait for another job, which could only run after it.
-/

namespace ShaderBundle

/-- Who makes a request: another thread, or a job on the graphics thread itself. -/
inductive Caller where
  | outside
  | job
  deriving DecidableEq, Repr

/-- The failure to make a backend, from its causes, the first one innermost. -/
def ThreadError.ofChain (causes : List Text) : ThreadError :=
  startup (List.intercalate [':', ' '] causes.reverse)

/-- The failure of a thread that crashed before it had a backend. -/
def ThreadError.crashed : ThreadError :=
  startup "graphics thread exited during initialisation".toList

/-- The thread of a backend. -/
structure Worker (σ : Type) where
  /-- The state of the backend. -/
  device : σ
  /-- The jobs that nobody waits for, the oldest first. -/
  queue : List (Job σ Unit) := []

namespace Worker

variable {σ α : Type}

/-- Queues a job. -/
def submit (worker : Worker σ) (job : Job σ Unit) : Worker σ :=
  { worker with queue := worker.queue ++ [job] }

/-- Carries all queued jobs out. -/
def drain (worker : Worker σ) : Worker σ where
  device := worker.queue.foldl (fun device job => (job.run device).2) worker.device

/-- Has a job done behind those that wait. -/
def call (worker : Worker σ) (caller : Caller) (job : Job σ α) : Except ThreadError α × Worker σ :=
  match caller with
  | .job => (.error .reentrant, worker)
  | .outside =>
    match job.run worker.drain.device with
    | (some answer, device) => (.ok answer, { device })
    | (none, device) => (.error .unavailable, { device })

end Worker

end ShaderBundle
