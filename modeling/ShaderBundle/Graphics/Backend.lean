import ShaderBundle.Bundle.Stage
import ShaderBundle.Graphics.Uniform

/-!
# Graphics backends

A backend compiles stages, links programs and answers questions about them. The rest of the library
knows a backend only through the operations listed here.

## Main definitions

* `StageId` and `ProgramId` are the names a backend gives to its objects. They carry no ownership.
* `Job σ α` is work on the graphics thread, over the state `σ` of a backend. A job may crash; what
  it did before stays done.
* `Backend σ` is the list of operations.
* `Call` is a record of one operation with its arguments.

## Implementation notes

A refusal and a crash differ. A backend that refuses to compile or link hands back a log, and the
caller cleans up; a crash ends the job where it stands.

The names of objects are whatever numbers a backend hands out. They are words of 32 bits in the
program; here nothing is done with them but to compare them and to hand them back, and no bound is
needed for that.
-/

namespace ShaderBundle

/-- The name of a compiled stage. -/
structure StageId where
  /-- The number the backend knows it by. -/
  raw : Nat
  deriving DecidableEq, Repr

/-- The name of a program. -/
structure ProgramId where
  /-- The number the backend knows it by. -/
  raw : Nat
  deriving DecidableEq, Repr

/-- Work over the state of a backend that may crash midway. -/
abbrev Job (σ α : Type) := OptionT (StateM σ) α

namespace Job

variable {σ α β : Type}

/-- A step that cannot crash. -/
def step (f : σ → α × σ) : Job σ α :=
  OptionT.mk fun s => (some (f s).1, (f s).2)

/-- A step that only changes the state. -/
def change (f : σ → σ) : Job σ Unit :=
  step fun s => ((), f s)

/-- The end of a job that goes no further. -/
def crash : Job σ α :=
  OptionT.mk fun s => (none, s)

/-- Carries a job out. A crashed job has no value, and it leaves the state it had reached. -/
def run (job : Job σ α) (s : σ) : Option α × σ :=
  OptionT.run job s

@[simp] theorem run_pure (a : α) (s : σ) : run (pure a : Job σ α) s = (some a, s) := rfl

@[simp] theorem run_step (f : σ → α × σ) (s : σ) :
    run (step f) s = (some (f s).1, (f s).2) := rfl

@[simp] theorem run_crash (s : σ) : run (crash : Job σ α) s = (none, s) := rfl

theorem run_bind (job : Job σ α) (next : α → Job σ β) (s : σ) :
    run (job >>= next) s = match run job s with
      | (some a, t) => run (next a) t
      | (none, t) => (none, t) := by
  change (match (job s).1 with | some a => next a | none => pure none : StateM σ (Option β))
    (job s).2 = _
  rcases h : job s with ⟨_ | a, t⟩
  · simp only [run, OptionT.run, h]
    rfl
  · simp only [run, OptionT.run, h]

end Job

/-- The operations of a backend with states `σ`. -/
structure Backend (σ : Type) where
  /-- What the backend is called. -/
  name : String
  /-- Compiles the source of one stage, or hands back the log. A refused stage leaves nothing. -/
  compile : Stage → Text → Job σ (Except Text StageId)
  /-- Deletes a stage. -/
  deleteStage : StageId → Job σ Unit
  /-- Makes an empty program. -/
  createProgram : Job σ (Except Text ProgramId)
  /-- Attaches a stage to a program. -/
  attach : ProgramId → StageId → Job σ Unit
  /-- Detaches a stage from a program. -/
  detach : ProgramId → StageId → Job σ Unit
  /-- Links the attached stages, or hands back the log. -/
  link : ProgramId → Job σ (Except Text Unit)
  /-- Checks a program against the present state of the pipeline. -/
  validate : ProgramId → Job σ (Except Text Unit)
  /-- Deletes a program. -/
  deleteProgram : ProgramId → Job σ Unit
  /-- The location of a uniform by name. -/
  uniformLocation : ProgramId → Text → Job σ (Option Location)
  /-- The location of a vertex attribute by name. -/
  attributeLocation : ProgramId → Text → Job σ (Option Location)
  /-- The active uniforms. -/
  activeUniforms : ProgramId → Job σ (List UniformInfo)
  /-- Makes a program current, or none. -/
  use : Option ProgramId → Job σ Unit
  /-- Writes a uniform. The current program stays what it was. -/
  setUniform : ProgramId → Location → UniformValue → Job σ Unit

/-- One operation of a backend with its arguments. -/
inductive Call where
  | compile (stage : Stage)
  | deleteStage (stage : StageId)
  | createProgram
  | attach (program : ProgramId) (stage : StageId)
  | detach (program : ProgramId) (stage : StageId)
  | link (program : ProgramId)
  | validate (program : ProgramId)
  | deleteProgram (program : ProgramId)
  | uniformLocation (program : ProgramId) (name : Text)
  | attributeLocation (program : ProgramId) (name : Text)
  | activeUniforms (program : ProgramId)
  | use (program : Option ProgramId)
  | setUniform (program : ProgramId) (location : Location) (value : UniformValue)
  deriving DecidableEq, Repr

end ShaderBundle
