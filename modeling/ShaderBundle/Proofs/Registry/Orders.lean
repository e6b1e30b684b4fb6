import ShaderBundle.Proofs.Registry.Lifetimes

/-!
# Orders and turns

A registry keeps its graphics thread together with the orders that wait. On a scene an order is a
job like any other, and to carry orders out is to have one turn after the other.

## Carrying out

A thread carries its orders out when something is asked of it: all that wait, the oldest first. In a
registry that is a single function over the queue; on a scene it is turns, between which others
might come. To compare the two it has to be known that an order comes to the same whatever else is
in the queue and whatever job is noted as running, since the scene keeps both elsewhere.
`Thread.handling` puts other orders and another job in their place, and the equations of the first
part move it past everything that a thread does.

## What orders can do

An order destroys programs or changes the one in use. `obey_induction` and `drain_induction` say
once that what both of these keep up is kept up by all orders that wait, so that no later proof has
to go through the queue.

## Main definitions

* `Thread.handling`: a thread with other orders and another running job.
* `Order.task`: the job that an order comes to.

## Main results

* `Thread.drain_cons`: orders are carried out one by one, whatever else waits.
* `Thread.obey_induction`, `Thread.drain_induction`: what holds behind orders.
* `Scene.Custody.drains_order`: an order is carried out in turns.
-/

namespace ShaderBundle

/-- The job that an order comes to. -/
def Order.task : Order → Task
  | destroy programs => .destroy programs
  | bind program => .visit [program]
  | unbind => .visit []

theorem Order.mem_programs_iff {order : Order} {ref : ProgramRef} :
    ref ∈ order.programs ↔ ref ∈ order.task.visited ∨ ref ∈ order.task.destroyed := by
  cases order <;> simp [programs, task, Task.visited, Task.destroyed]

namespace Thread

variable {σ α : Type} {backend : Backend σ}

/-- The thread with other orders and another running job. -/
def handling (thread : Thread σ) (queue : List Order) (running : List ProgramRef) : Thread σ :=
  { thread with queue, running }

section Handling

variable (thread : Thread σ) (queue : List Order) (running : List ProgramRef)

theorem program?_handling (ref : ProgramRef) :
    (thread.handling queue running).program? ref = thread.program? ref := rfl

theorem perform_handling (job : Job σ α) : (thread.handling queue running).perform job =
    ((thread.perform job).1, (thread.perform job).2.handling queue running) := rfl

theorem destroy_handling (backend : Backend σ) (ref : ProgramRef) :
    (thread.handling queue running).destroy backend ref =
      ((thread.destroy backend ref).1, (thread.destroy backend ref).2.handling queue running) := by
  rw [destroy, destroy, program?_handling]
  cases thread.program? ref <;> rfl

theorem destroyAll_handling (backend : Backend σ) (programs : List ProgramRef) :
    (thread.handling queue running).destroyAll backend programs =
      (thread.destroyAll backend programs).handling queue running := by
  induction programs generalizing thread with
  | nil => rfl
  | cons ref rest ih =>
    rw [destroyAll, destroyAll, destroy_handling]
    rcases thread.destroy backend ref with ⟨_ | _, later⟩
    · rfl
    · exact ih later

/-- What comes of an order does not depend on what else waits. -/
theorem obey_handling (backend : Backend σ) (order : Order) :
    (thread.handling queue running).obey backend order =
      (thread.obey backend order).handling queue running := by
  cases order with
  | destroy programs => exact thread.destroyAll_handling queue running backend programs
  | bind ref =>
    rw [obey, obey, program?_handling]
    cases thread.program? ref <;> rfl
  | unbind => rfl

theorem build_handling (backend : Backend σ) (bundle : Bundle) (validate : Bool) :
    (thread.handling queue running).build backend bundle validate =
      ((thread.build backend bundle validate).1,
        (thread.build backend bundle validate).2.handling queue running) := by
  rw [build, build, perform_handling]
  rcases thread.perform (Build.build backend bundle validate) with ⟨_ | _ | _, later⟩ <;> rfl

theorem withProgram_handling (ref : ProgramRef) (program : Program)
    (job : Program → Job σ (α × Program)) :
    (thread.handling queue running).withProgram ref program job =
      ((thread.withProgram ref program job).1,
        (thread.withProgram ref program job).2.handling queue running) := by
  rw [withProgram, withProgram, perform_handling]
  rcases thread.perform (job program) with ⟨_ | _, later⟩ <;> rfl

end Handling

variable {thread : Thread σ}

theorem drain_of_nil (h : thread.queue = []) : thread.drain backend = thread := by
  obtain ⟨device, programs, made, queue, running⟩ := thread
  obtain rfl : queue = [] := h
  rfl

/-- **Orders are carried out one by one.** -/
theorem drain_cons {order : Order} {rest : List Order} (h : thread.queue = order :: rest) :
    thread.drain backend =
      ((thread.handling rest thread.running).obey backend order).drain backend := by
  have hfoldl : thread.drain backend =
      rest.foldl (obey backend) ((thread.handling [] thread.running).obey backend order) := by
    rw [drain, h]
    rfl
  rw [hfoldl, obey_handling, obey_handling]
  rfl

theorem drain_handling (thread : Thread σ) (backend : Backend σ) (running : List ProgramRef) :
    (thread.handling thread.queue running).drain backend =
      (thread.drain backend).handling [] running := by
  induction hqueue : thread.queue generalizing thread with
  | nil => rw [drain_of_nil rfl, drain_of_nil hqueue]
  | cons order rest ih =>
    have hmore : (thread.handling (order :: rest) running).queue = order :: rest := rfl
    have hqueue' : ((thread.handling rest thread.running).obey backend order).queue = rest := by
      rw [obey_handling]
      rfl
    -- One order is carried out with the rest behind it, and neither depends on the running job.
    rw [drain_cons hqueue, drain_cons hmore, ← ih _ hqueue']
    simp only [obey_handling]
    rfl

@[simp] theorem queue_drain (backend : Backend σ) (thread : Thread σ) :
    (thread.drain backend).queue = [] :=
  congrArg Thread.queue (thread.drain_handling backend thread.running)

@[simp] theorem queue_build (backend : Backend σ) (thread : Thread σ) (bundle : Bundle)
    (validate : Bool) : (thread.build backend bundle validate).2.queue = thread.queue :=
  congrArg (·.2.queue) (thread.build_handling thread.queue thread.running backend bundle validate)

/-! ### What orders keep up

The programs that an order destroys are known, so what is to be kept up may be asked for these
only. -/

section Induction

variable {P : Thread σ → Prop}

/-- What every destruction keeps up holds behind all of them, and behind a crash. -/
theorem destroyAll_induction {programs : List ProgramRef}
    (hdestroy : ∀ ref ∈ programs, ∀ thread : Thread σ, P thread → P (thread.destroy backend ref).2)
    (h : P thread) : P (thread.destroyAll backend programs) := by
  induction programs generalizing thread with
  | nil => exact h
  | cons ref rest ih =>
    obtain ⟨hfirst, hrest⟩ := List.forall_mem_cons.mp hdestroy
    have hone := hfirst thread h
    rw [destroyAll]
    rcases hcase : thread.destroy backend ref with ⟨_ | _, later⟩
    all_goals rw [hcase] at hone
    -- A crash ends the order, and the rest of it is not carried out.
    · exact hone
    · exact ih hrest hone

/-- An order destroys programs or changes the one in use. -/
theorem obey_induction {order : Order}
    (hdestroy : ∀ ref ∈ order.task.destroyed, ∀ thread : Thread σ, P thread →
      P (thread.destroy backend ref).2)
    (huse : ∀ (program : Option ProgramId) (thread : Thread σ), P thread →
      P (thread.perform (backend.use program)).2)
    (h : P thread) : P (thread.obey backend order) := by
  cases order with
  | destroy programs => exact destroyAll_induction hdestroy h
  | bind ref =>
    rw [obey]
    split
    · exact h
    · exact huse _ thread h
  | unbind => exact huse none thread h

/-- What every order keeps up holds when all that wait are carried out. -/
theorem drain_induction
    (hobey : ∀ order ∈ thread.queue, ∀ thread : Thread σ, P thread → P (thread.obey backend order))
    (h : P (thread.handling [] thread.running)) : P (thread.drain backend) :=
  List.foldlRecOn thread.queue (obey backend) h fun middle hmiddle order horder =>
    hobey order horder middle hmiddle

end Induction

/-! ### What is said

Orders make nothing. This is what allows the numbers of the backend to be assumed fresh up to the
end of what was said before them. -/

section Log

variable (backend : Backend σ) (thread : Thread (List Event × σ))

theorem hushed_destroyAll (programs : List ProgramRef) :
    thread.Hushed (thread.destroyAll backend.recording programs) :=
  destroyAll_induction (fun ref _ middle h => h.trans (middle.hushed_destroy backend ref))
    (hushed_refl thread)

theorem hushed_obey (order : Order) : thread.Hushed (thread.obey backend.recording order) :=
  obey_induction (fun ref _ middle h => h.trans (middle.hushed_destroy backend ref))
    (fun program middle h => h.trans (hushed_use backend middle program)) (hushed_refl thread)

/-- Orders hand nothing out. -/
theorem hushed_drain : thread.Hushed (thread.drain backend.recording) :=
  drain_induction (fun order _ middle h => h.trans (middle.hushed_obey backend order))
    (hushed_refl thread)

end Log

/-! ### Objects that are visited

On a scene a program is made current by visiting its object, which is stored again behind the visit.
The object has not changed, so this is the same as the order. -/

/-- Storing an object that is there changes nothing. -/
theorem store_self {ref : ProgramRef} {program : Program} (hrefs : thread.refs.Nodup)
    (h : thread.program? ref = some program) : thread.store ref program = thread := by
  have hmem := mem_programs_of_program? h
  rw [refs_eq_map] at hrefs
  have hsame : (thread.programs.map fun kept => if kept.1 = ref then (ref, program) else kept) =
      thread.programs := by
    refine (List.map_congr_left fun kept hkept => ?_).trans (List.map_id _)
    split
    · rename_i heq
      exact (List.inj_on_of_nodup_map hrefs hkept hmem heq).symm
    · rfl
  rw [store, hsame]

/-- To visit a program in order to make it current is to make it current. -/
theorem withProgram_use {ref : ProgramRef} {program : Program} (hrefs : thread.refs.Nodup)
    (h : thread.program? ref = some program) :
    (thread.withProgram ref program (Program.Visit.use.job backend)).2 =
      (thread.perform (backend.use (some program.id))).2 := by
  have hjob : (Program.Visit.use.job backend program).run thread.device =
      match (backend.use (some program.id)).run thread.device with
      | (some (), device) => (some (true, program), device)
      | (none, device) => (none, device) := by
    rw [Program.Visit.job, Job.run_bind]
    rcases (backend.use (some program.id)).run thread.device with ⟨_ | _, device⟩ <;> rfl
  rw [withProgram, perform, perform, hjob]
  rcases (backend.use (some program.id)).run thread.device with ⟨_ | _, device⟩
  · rfl
  · exact @store_self _ { thread with device } _ _ hrefs h

end Thread

namespace Scene

variable {σ : Type} {backend : Backend σ} {validate : Bool} {scene : Scene σ}

/-- Programs are destroyed in turns. -/
theorem Custody.drains_destroy (h : scene.Custody) (validate : Bool) {programs : List ProgramRef}
    (hrunning : scene.running = some (.destroy programs))
    (hfresh : Ledger.Fresh {} (scene.thread.destroyAll backend.recording programs).log) :
    ∃ lost, Drains backend validate scene
      { scene with
        thread := scene.thread.destroyAll backend.recording programs, running := none, lost } := by
  induction programs generalizing scene with
  | nil => exact ⟨scene.lost, Drains.refl.turn (.done hrunning)⟩
  | cons ref rest ih =>
    have hturn : Turn backend validate scene (scene.destroyed backend ref rest) :=
      .destroy hrunning
    -- Nobody else holds the program, so the turn destroys it.
    rw [destroyed, if_pos (h.holders_eq_one hrunning)] at hturn
    rw [Thread.destroyAll] at hfresh ⊢
    rcases hcase : scene.thread.destroy backend.recording ref with ⟨_ | _, thread⟩
    all_goals rw [hcase] at hturn hfresh
    · exact ⟨_, Drains.refl.turn hturn⟩
    -- The rest is destroyed in turns, from a scene with custody again.
    · have hlog := (thread.hushed_destroyAll backend rest).log
      have hcustody := (h.turn hturn (Ledger.along_of_prefix hlog hfresh)).1
      obtain ⟨lost, hdrains⟩ := ih hcustody rfl hfresh
      exact ⟨lost, (Drains.refl.turn hturn).trans hdrains⟩

/-- **An order is carried out in turns.** -/
theorem Custody.drains_order (h : scene.Custody) (validate : Bool)
    (hidle : scene.running = none) {order : Order} {rest : List Task}
    (hqueue : scene.queue = order.task :: rest)
    (hfresh : Ledger.Fresh {} (scene.thread.obey backend.recording order).log) :
    ∃ lost, Drains backend validate scene
      { scene with
        thread := scene.thread.obey backend.recording order
        queue := rest
        running := none
        lost } := by
  have hstart : Drains backend validate scene
      { scene with running := some order.task, queue := rest } :=
    Drains.refl.turn (.start hidle hqueue)
  cases order with
  | destroy programs =>
    obtain ⟨lost, hdrains⟩ := (h.start hidle hqueue).drains_destroy validate rfl hfresh
    exact ⟨lost, hstart.trans hdrains⟩
  | bind ref =>
    refine ⟨scene.lost, ?_⟩
    rw [Thread.obey]
    split
    -- The program is gone, and there is nothing to make current.
    · exact hstart.turn (.leave rfl)
    · rename_i program hprogram
      let started : Scene σ := { scene with running := some (.visit [ref]), queue := rest }
      have hstarted : started.thread.program? ref = some program := hprogram
      have hturn : Turn backend validate started { started with
          thread := (scene.thread.withProgram ref program
            (Program.Visit.use.job backend.recording)).2 } :=
        .visit rfl (List.mem_singleton_self ref) hstarted .use
      rw [Thread.withProgram_use h.alive.refs hprogram] at hturn
      exact (hstart.turn hturn).turn (.leave rfl)
  | unbind => exact ⟨scene.lost, (hstart.turn (.unuse rfl)).turn (.leave rfl)⟩

end Scene

end ShaderBundle
