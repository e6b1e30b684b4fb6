import ShaderBundle.Graphics.Build

/-!
# What a build keeps

An invariant of a backend's state is checked operation by operation. Everything that is put together
from operations keeps it too, whether it succeeds, fails or crashes midway.

## Invariants through a crash

A job ends with a value or it crashes, and in either case it leaves a state. `Job.Keeps` is about
that state and does not ask which of the two happened. So an invariant that is kept can be relied on
by whatever comes next, also by a thread that goes on with its queue behind a job that crashed. A
triple with a postcondition for values would say nothing there.

## Why compiling is left out

`Backend.Keeps` has a field for each operation that a build uses, except for compiling. Compiling is
the one operation whose effect depends on more than the state: on the stage and on the source, and
an invariant may be kept by the sources of one bundle and not by all of them. The lemma about builds
has it as a hypothesis, for the blocks of the bundle.

## Loops

The definition of a build has four loops over compiled stages, each written by recursion. They are
loops over a list in the sense of the library (`forM`), and are rewritten to such, so that what a
loop keeps is proved once.

## Main definitions

* `Job.Keeps`: a job keeps what holds of the state.
* `Job.Finishes`: a job ends with a value, from any state.
* `Backend.Keeps`: every operation of a build keeps what holds, other than compiling.

## Main results

* `Build.link_keeps`, `Build.build_keeps`: what is kept by the operations is kept by the whole.
-/

namespace ShaderBundle

variable {σ α β : Type} {P : σ → Prop}

namespace Job

/-- Whatever comes of the job, what held before it holds behind it. -/
def Keeps (P : σ → Prop) (job : Job σ α) : Prop :=
  ∀ s, P s → P (job.run s).2

theorem keeps_pure (a : α) : Keeps P (pure a : Job σ α) :=
  fun _ h => h

theorem keeps_crash : Keeps P (crash : Job σ α) :=
  fun _ h => h

theorem keeps_step {f : σ → α × σ} (h : ∀ s, P s → P (f s).2) : Keeps P (step f) :=
  h

theorem keeps_change {f : σ → σ} (h : ∀ s, P s → P (f s)) : Keeps P (change f) :=
  h

theorem Keeps.bind {job : Job σ α} {next : α → Job σ β} (h : Keeps P job)
    (hnext : ∀ a, Keeps P (next a)) : Keeps P (job >>= next) := by
  intro s hs
  have hrun := h s hs
  rw [run_bind]
  rcases hjob : run job s with ⟨_ | a, t⟩
  · rw [hjob] at hrun
    exact hrun
  · rw [hjob] at hrun
    exact hnext a t hrun

/-- A job for each element of a list, in order. -/
theorem keeps_forM {act : α → Job σ Unit} (h : ∀ a, Keeps P (act a)) (list : List α) :
    Keeps P (forM list act) := by
  induction list with
  | nil => exact keeps_pure ()
  | cons a rest ih =>
    rw [List.forM_cons]
    exact (h a).bind fun _ => ih

/-- The job ends with a value. -/
def Finishes (job : Job σ α) : Prop :=
  ∀ s, ∃ a, (job.run s).1 = some a

theorem finishes_step (f : σ → α × σ) : Finishes (step f) :=
  fun s => ⟨(f s).1, rfl⟩

theorem finishes_change (f : σ → σ) : Finishes (change f) :=
  fun _ => ⟨(), rfl⟩

theorem finishes_pure (a : α) : Finishes (pure a : Job σ α) :=
  fun _ => ⟨a, rfl⟩

theorem Finishes.bind {job : Job σ α} {next : α → Job σ β} (h : Finishes job)
    (hnext : ∀ a, Finishes (next a)) : Finishes (job >>= next) := by
  intro s
  obtain ⟨a, ha⟩ := h s
  obtain ⟨b, hb⟩ := hnext a (job.run s).2
  refine ⟨b, ?_⟩
  rw [run_bind]
  rcases hjob : job.run s with ⟨_ | a', t⟩
  · simp [hjob] at ha
  · obtain rfl : a' = a := by simpa [hjob] using ha
    rwa [hjob] at hb

theorem finishes_forM {act : α → Job σ Unit} (h : ∀ a, Finishes (act a)) (list : List α) :
    Finishes (forM list act) := by
  induction list with
  | nil => exact finishes_pure ()
  | cons a rest ih =>
    rw [List.forM_cons]
    exact (h a).bind fun _ => ih

/-- Behind a job that ends without an answer the next one goes on. -/
theorem Finishes.run_bind {job : Job σ Unit} (h : Finishes job) (next : Unit → Job σ β) (s : σ) :
    (job >>= next).run s = (next ()).run (job.run s).2 := by
  obtain ⟨a, ha⟩ := h s
  rw [Job.run_bind]
  rcases hjob : job.run s with ⟨_ | a', t⟩
  · simp [hjob] at ha
  · rfl

end Job

/-- Every operation of a build keeps what holds of the state, other than compiling. -/
structure Backend.Keeps (P : σ → Prop) (backend : Backend σ) : Prop where
  /-- Deleting a stage does. -/
  deleteStage : ∀ stage, (backend.deleteStage stage).Keeps P
  /-- Making a program does. -/
  createProgram : backend.createProgram.Keeps P
  /-- Attaching a stage does. -/
  attach : ∀ program stage, (backend.attach program stage).Keeps P
  /-- Detaching a stage does. -/
  detach : ∀ program stage, (backend.detach program stage).Keeps P
  /-- Linking does. -/
  link : ∀ program, (backend.link program).Keeps P
  /-- Validating does. -/
  validate : ∀ program, (backend.validate program).Keeps P
  /-- Deleting a program does. -/
  deleteProgram : ∀ program, (backend.deleteProgram program).Keeps P

namespace Build

variable {backend : Backend σ}

/-! ### Loops over stages -/

theorem release_eq_forM (backend : Backend σ) (compiled : List Compiled) :
    release backend compiled = forM compiled fun c => backend.deleteStage c.id := by
  induction compiled with
  | nil => rfl
  | cons c rest ih => rw [release, ih, List.forM_cons]

theorem attach_eq_forM (backend : Backend σ) (program : ProgramId) (compiled : List Compiled) :
    attach backend program compiled = forM compiled fun c => backend.attach program c.id := by
  induction compiled with
  | nil => rfl
  | cons c rest ih => rw [attach, ih, List.forM_cons]

theorem detach_eq_forM (backend : Backend σ) (program : ProgramId) (compiled : List Compiled) :
    detach backend program compiled = forM compiled fun c => backend.detach program c.id := by
  induction compiled with
  | nil => rfl
  | cons c rest ih => rw [detach, ih, List.forM_cons]

theorem consume_eq_forM (backend : Backend σ) (program : ProgramId) (compiled : List Compiled) :
    consume backend program compiled = forM compiled fun c =>
      backend.detach program c.id >>= fun _ => backend.deleteStage c.id := by
  induction compiled with
  | nil => rfl
  | cons c rest ih => rw [consume, ih, List.forM_cons, bind_assoc]

/-! ### Invariants

The parts of a build from the inside out, each of them a job that is made of operations and of the
parts before it. -/

theorem release_keeps (h : backend.Keeps P) (compiled : List Compiled) :
    (release backend compiled).Keeps P := by
  rw [release_eq_forM]
  exact Job.keeps_forM (fun c => h.deleteStage c.id) compiled

theorem attach_keeps (h : backend.Keeps P) (program : ProgramId) (compiled : List Compiled) :
    (attach backend program compiled).Keeps P := by
  rw [attach_eq_forM]
  exact Job.keeps_forM (fun c => h.attach program c.id) compiled

theorem detach_keeps (h : backend.Keeps P) (program : ProgramId) (compiled : List Compiled) :
    (detach backend program compiled).Keeps P := by
  rw [detach_eq_forM]
  exact Job.keeps_forM (fun c => h.detach program c.id) compiled

theorem consume_keeps (h : backend.Keeps P) (program : ProgramId) (compiled : List Compiled) :
    (consume backend program compiled).Keeps P := by
  rw [consume_eq_forM]
  exact Job.keeps_forM (fun c => (h.detach program c.id).bind fun _ => h.deleteStage c.id) compiled

theorem advise_keeps (h : backend.Keeps P) (program : ProgramId) (validate : Bool) :
    (advise backend program validate).Keeps P := by
  cases validate with
  | true => exact (h.validate program).bind fun _ => Job.keeps_pure ()
  | false => exact Job.keeps_pure ()

/-- **Linking keeps what its operations keep.** -/
theorem link_keeps (h : backend.Keeps P) (compiled : List Compiled) (validate : Bool) :
    (link backend compiled validate).Keeps P := by
  refine h.createProgram.bind fun created => ?_
  cases created with
  | error log => exact (release_keeps h compiled).bind fun _ => Job.keeps_pure _
  | ok program =>
    refine (attach_keeps h program compiled).bind fun _ => (h.link program).bind fun linked => ?_
    cases linked with
    | error log =>
      exact (detach_keeps h program compiled).bind fun _ =>
        (release_keeps h compiled).bind fun _ =>
          (h.deleteProgram program).bind fun _ => Job.keeps_pure _
    | ok _ =>
      exact (consume_keeps h program compiled).bind fun _ =>
        (advise_keeps h program validate).bind fun _ => Job.keeps_pure _

/-- A log is diagnosed without the backend, or the job crashes over it. -/
theorem run_diagnose (block : Block) (log : Text) (s : σ) :
    (diagnose block log : Job σ (List Diagnostic)).run s =
      ((Diagnostic.remapBlock? block log).map fun diagnostics =>
        if diagnostics = [] then [silent] else diagnostics, s) := by
  rw [diagnose]
  rcases Diagnostic.remapBlock? block log with _ | _ | ⟨diagnostic, diagnostics⟩ <;> rfl

theorem diagnose_keeps (block : Block) (log : Text) :
    (diagnose block log : Job σ (List Diagnostic)).Keeps P := by
  rw [diagnose]
  split
  · exact Job.keeps_crash
  · exact Job.keeps_pure _
  · exact Job.keeps_pure _

theorem compileBlock_keeps (hcompile : ∀ stage source, (backend.compile stage source).Keeps P)
    (block : Block) : (compileBlock backend block).Keeps P := by
  refine (hcompile block.stage block.source).bind fun answer => ?_
  cases answer with
  | ok id => exact Job.keeps_pure _
  | error log => exact (diagnose_keeps block log).bind fun _ => Job.keeps_pure _

theorem compileBlocks_keeps (h : backend.Keeps P)
    (hcompile : ∀ stage source, (backend.compile stage source).Keeps P) (done : List Compiled)
    (blocks : List Block) : (compileBlocks backend done blocks).Keeps P := by
  induction blocks generalizing done with
  | nil => exact Job.keeps_pure _
  | cons block rest ih =>
    refine (compileBlock_keeps hcompile block).bind fun answer => ?_
    cases answer with
    | ok compiled => exact ih (done ++ [compiled])
    | error e => exact (release_keeps h done).bind fun _ => Job.keeps_pure _

/-- **A build keeps what its operations keep.** -/
theorem build_keeps (h : backend.Keeps P)
    (hcompile : ∀ stage source, (backend.compile stage source).Keeps P) (bundle : Bundle)
    (validate : Bool) : (build backend bundle validate).Keeps P := by
  refine (compileBlocks_keeps h hcompile [] bundle.blocks).bind fun answer => ?_
  cases answer with
  | error e => exact Job.keeps_pure _
  | ok compiled => exact link_keeps h compiled validate

end Build

end ShaderBundle
