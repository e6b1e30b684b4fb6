import ShaderBundle.Proofs.Registry.Orders

/-!
# A registry on the scene

A registry that callers use one after the other is shown by a scene: the table, the program objects
and the orders that wait are the same. What happens to the registry happens on the scene in steps.

## Showing

A registry has a graphics thread with a queue of orders and a note of who holds what; a scene has
jobs and counts references. `Registry.Shown` says how the one is found in the other. The thread of
the scene has no queue of its own, so that orders are in one place only, and a job of `run` is a
visit that is being carried out. There may be more on the scene than the registry knows: other
callers with requests in flight, and the past.

## Enacting

`Registry.Enacts` relates two registries and is composed like steps. It is a promise for every scene
that shows the first: there are steps to one that shows the second. Since scenes are used to talk
about conversations, the promise needs that the backend hands out no number in use up to the end of
what was said, and it comes with the fact that what was said before is the beginning of that.

The lemmas below are about the pieces that calls consist of: sections, orders, visits and builds.
Calls themselves come later.

## Main definitions

* `Registry.Shown`: a scene shows a registry, `Registry.Staged`: and everything is accounted for.
* `Registry.Enacts`: steps on the scene lead from one registry to another.

## Main results

* `Registry.enacts_drain`, `Registry.enacts_sweep`: orders are carried out in turns, and a sweep
  takes out what has no other holder.
* `Registry.enacts_failed`, `Registry.enacts_built`: requests, with what they are built from.
* `Registry.enacts_visit`, `Registry.enacts_look`: something is done with a program.

## Implementation notes

The registry notes who holds a program in the queue and in the running job; the scene counts all
references. They agree for retired programs, which is all that a sweep asks about.

Other callers may have requests in flight while a registry is shown. What they have handed out, they
have not handed in yet.
-/

namespace ShaderBundle

variable {σ : Type}

/-- The same surroundings with a record of the conversation. -/
def Surroundings.recording (around : Surroundings σ) : Surroundings (List Event × σ) :=
  { around with backend := around.backend.recording }

namespace Scene

variable {backend : Backend σ} {validate : Bool} {scene later : Scene σ}

theorem Drains.reached (h : Drains backend validate scene later) :
    Reached backend validate scene later := by
  induction h with
  | refl => exact .refl
  | turn _ hturn ih => exact ih.step (.turn hturn)

/-- Jobs are handed in one after the other. -/
theorem reached_handOver (backend : Backend σ) (validate : Bool) (before more : List Task)
    (scene : Scene σ) (hwaiting : scene.waiting = before ++ more) :
    Reached backend validate scene
      { scene with waiting := before, queue := scene.queue ++ more } := by
  induction more generalizing scene with
  | nil =>
    obtain ⟨traffic, thread, waiting, queue, running, built, lost⟩ := scene
    obtain rfl : waiting = before := by simpa using hwaiting
    rw [List.append_nil]
    exact .refl
  | cons task rest ih =>
    have hnext := ih { scene with waiting := before ++ rest, queue := scene.queue ++ [task] } rfl
    rw [List.append_assoc] at hnext
    exact (Reached.refl.step (.handOver hwaiting)).trans hnext

/-- A caller takes programs of the table and does something with them at once. -/
theorem reached_enter (hidle : scene.running = none) (hqueue : scene.queue = [])
    {programs : List ProgramRef}
    (hprograms : ∀ ref ∈ programs, ref ∈ scene.traffic.table.programs) :
    Reached backend validate scene { scene with running := some (.visit programs) } := by
  have hcapture : Reached backend validate scene
      { scene with waiting := scene.waiting ++ [.visit programs] } :=
    Reached.refl.step (.capture hprograms)
  have hhanded := hcapture.trans (reached_handOver backend validate scene.waiting
    [.visit programs] _ rfl)
  obtain ⟨traffic, thread, waiting, queue, running, built, lost⟩ := scene
  obtain rfl : queue = [] := hqueue
  exact hhanded.step (.turn (.start hidle rfl))

end Scene

namespace Registry

/-- A scene shows a registry whose graphics thread is in a job of `run` with some programs, or in no
job. Other callers may have requests in flight, but no other jobs to hand in. -/
structure Shown (registry : Registry (List Event × σ)) (frame : Option (List ProgramRef))
    (scene : Scene σ) : Prop where
  /-- The table. -/
  table : scene.traffic.table = registry.table
  /-- The thread apart from its jobs. -/
  thread : scene.thread = registry.thread.handling [] []
  /-- The orders that wait. -/
  queue : scene.queue = registry.thread.queue.map Order.task
  /-- The job. -/
  running : scene.running = frame.map Task.visit
  /-- The programs of the job. -/
  held : registry.thread.running = frame.getD []
  /-- Jobs that are not handed in hold no programs. -/
  waiting : ∀ task ∈ scene.waiting, task.visited = [] ∧ task.destroyed = []

/-- A scene shows a registry, and everything on it is accounted for. -/
structure Staged (registry : Registry (List Event × σ)) (frame : Option (List ProgramRef))
    (scene : Scene σ) : Prop extends Shown registry frame scene where
  /-- Every program object has its owner. -/
  custody : scene.Custody
  /-- The table is accounted for. -/
  regular : scene.Regular

/-- Steps on the scene lead from one registry to another. -/
structure Enacts (backend : Backend σ) (validate : Bool) (frame frame' : Option (List ProgramRef))
    (registry registry' : Registry (List Event × σ)) : Prop where
  /-- The conversation goes on. -/
  log : registry.thread.log <+: registry'.thread.log
  /-- Wherever the first registry is shown, steps lead to where the second one is, and nothing is
  left undone. -/
  enact : ∀ {scene : Scene σ}, Staged registry frame scene →
    Ledger.Fresh {} registry'.thread.log →
      ∃ later, Scene.Reached backend validate scene later ∧ Staged registry' frame' later ∧
        (scene.Unused → later.Unused)

variable {backend : Backend σ} {validate : Bool} {frame frame' frame'' : Option (List ProgramRef)}
  {registry registry' registry'' : Registry (List Event × σ)} {scene later : Scene σ}

theorem Shown.log (h : Shown registry frame scene) : scene.thread.log = registry.thread.log := by
  rw [h.thread]
  rfl

theorem enacts_of_shown (hlog : registry.thread.log <+: registry'.thread.log)
    (h : ∀ {scene : Scene σ}, Staged registry frame scene → Ledger.Fresh {} registry'.thread.log →
      ∃ later, Scene.Reached backend validate scene later ∧ Shown registry' frame' later ∧
        (scene.Unused → later.Unused)) :
    Enacts backend validate frame frame' registry registry' := by
  refine ⟨hlog, fun hstaged hfresh => ?_⟩
  obtain ⟨later, hreached, hshown, hunused⟩ := h hstaged hfresh
  rw [← hshown.log] at hfresh
  obtain ⟨hcustody, hregular, -⟩ := hstaged.custody.reached hstaged.regular hreached hfresh
  exact ⟨later, hreached, ⟨hshown, hcustody, hregular⟩, hunused⟩

theorem enacts_refl (registry : Registry (List Event × σ)) :
    Enacts backend validate frame frame registry registry :=
  ⟨List.prefix_rfl, fun hstaged _ => ⟨_, .refl, hstaged, id⟩⟩

theorem Enacts.trans (h : Enacts backend validate frame frame' registry registry')
    (h' : Enacts backend validate frame' frame'' registry' registry'') :
    Enacts backend validate frame frame'' registry registry'' := by
  refine ⟨h.log.trans h'.log, fun hstaged hfresh => ?_⟩
  obtain ⟨middle, hreached, hstaged', hunused⟩ :=
    h.enact hstaged (Ledger.along_of_prefix h'.log hfresh)
  obtain ⟨later, hreached', hstaged'', hunused'⟩ := h'.enact hstaged' hfresh
  exact ⟨later, hreached.trans hreached', hstaged'', hunused' ∘ hunused⟩

/-! ### Sections

A section of the registry is a section of the scene, as far as it begins and ends no request. -/

/-- A section that begins and ends nothing. -/
theorem enacts_section (step : Section) (hplain : step.IsPlain) {table : Slots}
    (hafter : ∀ traffic : Traffic, traffic.table = registry.table →
      (traffic.after step).table = table ∧ (traffic.after step).inFlight = traffic.inFlight) :
    Enacts backend validate frame frame registry { registry with table } := by
  refine enacts_of_shown List.prefix_rfl fun {scene} hstaged _ => ?_
  obtain ⟨htable, hinFlight⟩ := hafter scene.traffic hstaged.table
  exact ⟨_, Scene.Reached.refl.step (.enter hplain hinFlight), ⟨htable, hstaged.thread,
    hstaged.queue, hstaged.running, hstaged.held, hstaged.waiting⟩,
    fun h => ⟨h.waiting, hinFlight.trans h.inFlight⟩⟩

theorem enacts_release (handle : Handle) : Enacts backend validate frame frame registry
    { registry with table := (registry.table.release handle).2 } :=
  enacts_section (.release handle) trivial fun traffic htable =>
    ⟨by rw [traffic.table_release, htable], traffic.inFlight_release handle⟩

theorem enacts_clearFailed (name : Text) : Enacts backend validate frame frame registry
    { registry with table := (registry.table.clearFailed name).2 } :=
  enacts_section (.clearFailed name) trivial fun _ htable => ⟨by rw [← htable]; rfl, rfl⟩

/-! ### Orders

An order is captured and handed in at once. To carry orders out is a run of turns, by an induction
on the queue. -/

/-- To order something to be done with programs of the table is to hand a job in. -/
theorem enacts_submit {order : Order} {programs : List ProgramRef}
    (hvisit : order.task = .visit programs)
    (hprograms : ∀ ref ∈ programs, ref ∈ registry.table.programs) :
    Enacts backend validate frame frame registry
      { registry with thread := registry.thread.submit order } := by
  refine enacts_of_shown List.prefix_rfl fun {scene} hstaged _ => ?_
  -- The programs are in the table, so a caller may take references to them.
  have hcapture : Scene.Reached backend validate scene
      { scene with waiting := scene.waiting ++ [.visit programs] } :=
    Scene.Reached.refl.step (.capture fun ref href => hstaged.table ▸ hprograms ref href)
  refine ⟨_, hcapture.trans (Scene.reached_handOver backend validate scene.waiting
    [.visit programs] _ rfl), ⟨hstaged.table, hstaged.thread, ?_, hstaged.running, hstaged.held,
    hstaged.waiting⟩, fun h => ⟨h.waiting, h.inFlight⟩⟩
  change scene.queue ++ [.visit programs] = (registry.thread.queue ++ [order]).map Order.task
  rw [hstaged.queue, List.map_append, ← hvisit]
  rfl

/-- The graphics thread holds a retired program if and only if it has another holder. -/
theorem Staged.holds_eq (h : Staged registry frame scene) {ref : ProgramRef}
    (href : ref ∈ registry.table.retired) :
    registry.thread.holds ref = decide (scene.holders ref ≠ 1) := by
  have hheld : ref ∈ scene.traffic.table.held := by
    rw [h.table]
    exact List.mem_append_right _ href
  -- A retired program is owned by the table and by nobody else, so any other holder borrows it.
  have howned : scene.owned.count ref = 1 := by
    have hpos : 0 < scene.owned.count ref := List.count_pos_iff.mpr
      (List.mem_append_left _ (List.mem_append_left _ hheld))
    have hle := h.custody.count_owned_le ref
    omega
  have hborrowed : scene.holders ref ≠ 1 ↔ ref ∈ scene.borrowed := by
    rw [Scene.holders, List.count_append, howned, ← List.count_pos_iff]
    omega
  rw [Bool.eq_iff_iff, decide_eq_true_iff, hborrowed, Scene.mem_borrowed]
  -- An order that names it does not destroy it, so it is one that visits.
  have hqueue : ∀ order ∈ registry.thread.queue,
    ref ∈ order.programs ↔ ref ∈ order.task.visited := by
    intro order horder
    have htask : order.task ∈ scene.waiting ++ scene.tasks := by
      refine List.mem_append_right _ (List.mem_append_right _ ?_)
      rw [h.queue]
      exact List.mem_map_of_mem horder
    rw [Order.mem_programs_iff, or_iff_left (h.custody.notMem_destroyed hheld htask)]
  have hrunning : ref ∈ registry.thread.running ↔
      ∃ task ∈ scene.running.toList, ref ∈ task.visited := by
    rw [h.held, h.running]
    cases frame <;> simp [Task.visited]
  -- Jobs that are not handed in yet do not borrow anything.
  have hnone : ¬∃ task ∈ scene.waiting, ref ∈ task.visited := by
    rintro ⟨task, htask, hvisited⟩
    rw [(h.waiting task htask).1] at hvisited
    exact List.not_mem_nil hvisited
  simp only [Thread.holds, Bool.or_eq_true, List.contains_iff_mem, List.any_eq_true, Scene.tasks,
    List.mem_append, or_and_right, exists_or, hnone, false_or, hrunning, h.queue, List.mem_map,
    exists_exists_and_eq_and]
  refine or_congr Iff.rfl ⟨?_, ?_⟩
  · rintro ⟨order, horder, hmem⟩
    exact ⟨order, horder, (hqueue order horder).mp hmem⟩
  · rintro ⟨order, horder, hmem⟩
    exact ⟨order, horder, (hqueue order horder).mpr hmem⟩

/-- A sweep orders each program to be destroyed that it takes out. -/
theorem sweep_eq (registry : Registry σ) : registry.sweep =
    { table := (registry.table.sweep registry.thread.holds).2
      thread := registry.thread.handling (registry.thread.queue ++
        (registry.table.sweep registry.thread.holds).1.map fun ref => .destroy [ref])
        registry.thread.running } := by
  have hfoldl : ∀ (idle : List ProgramRef) (thread : Thread σ),
      idle.foldl (fun thread program => thread.submit (.destroy [program])) thread =
        thread.handling (thread.queue ++ idle.map fun ref => .destroy [ref]) thread.running := by
    intro idle
    induction idle with
    | nil =>
      intro thread
      simp [Thread.handling]
    | cons ref rest ih =>
      intro thread
      rw [List.foldl_cons, ih]
      simp [Thread.submit, Thread.handling]
  rw [sweep, ← hfoldl]

/-- What the registry sweeps out is what has no other holder. -/
theorem enacts_sweep : Enacts backend validate frame frame registry registry.sweep := by
  refine enacts_of_shown (by rw [sweep_eq]; exact List.prefix_rfl) fun {scene} hstaged _ => ?_
  -- Registry and scene take the same programs out.
  have hsame : registry.table.sweep registry.thread.holds =
      registry.table.sweep fun ref => decide (scene.holders ref ≠ 1) := by
    rw [Slots.sweep, Slots.sweep]
    rw [List.filter_congr fun ref href => congrArg _ (hstaged.holds_eq href)]
    rw [List.filter_congr fun ref href => hstaged.holds_eq href]
  have hswept : Scene.Reached backend validate scene scene.swept := Scene.Reached.refl.step .sweep
  rw [sweep_eq, hsame]
  refine ⟨_, hswept.trans (Scene.reached_handOver backend validate scene.waiting _ _ rfl), ⟨?_,
    hstaged.thread, ?_, hstaged.running, hstaged.held, hstaged.waiting⟩,
    fun h => ⟨h.waiting, h.inFlight⟩⟩
  · rw [← hstaged.table]
    rfl
  · change scene.queue ++ _ = (registry.thread.queue ++ _).map Order.task
    rw [hstaged.queue, List.map_append, List.map_map, hstaged.table]
    rfl

/-- **Orders are carried out in turns.** -/
theorem Staged.drains (h : Staged registry none scene) (validate : Bool)
    (hfresh : Ledger.Fresh {} (registry.thread.drain backend.recording).log) :
    ∃ later, Scene.Drains backend validate scene later ∧
      Staged { registry with thread := registry.thread.drain backend.recording } none later := by
  induction hqueue : registry.thread.queue generalizing registry scene with
  | nil =>
    rw [Thread.drain_of_nil hqueue]
    exact ⟨scene, .refl, h⟩
  | cons order rest ih =>
    rw [Thread.drain_cons hqueue] at hfresh ⊢
    let obeyed := (registry.thread.handling rest registry.thread.running).obey
      backend.recording order
    -- The oldest order comes to the same on the scene, which keeps the others elsewhere.
    have hobeyed : scene.thread.obey backend.recording order = obeyed.handling [] [] := by
      rw [h.thread, Thread.obey_handling]
      simp only [obeyed, Thread.obey_handling]
      rfl
    have hscene : scene.queue = order.task :: rest.map Order.task := by
      rw [h.queue, hqueue]
      rfl
    -- What was said behind it is the beginning of what will be said.
    have hfresh' : Ledger.Fresh {} (scene.thread.obey backend.recording order).log := by
      rw [hobeyed]
      exact Ledger.along_of_prefix (obeyed.hushed_drain backend).log hfresh
    obtain ⟨lost, hdrains⟩ := h.custody.drains_order validate h.running hscene hfresh'
    obtain ⟨hcustody, hregular, -⟩ := h.custody.drains h.regular hdrains hfresh'
    -- The scene shows the registry with one order less.
    have hstaged : Staged { registry with thread := obeyed } none
        { scene with
          thread := scene.thread.obey backend.recording order
          queue := rest.map Order.task
          running := none
          lost } := by
      refine ⟨⟨h.table, hobeyed, ?_, rfl, ?_, h.waiting⟩, hcustody, hregular⟩
      · simp only [obeyed, Thread.obey_handling]
        rfl
      · simp only [obeyed, Thread.obey_handling]
        exact h.held
    obtain ⟨later, hdrains', hlater⟩ := ih hstaged hfresh (by
      simp only [obeyed, Thread.obey_handling]
      rfl)
    exact ⟨later, hdrains.trans hdrains', hlater⟩

theorem enacts_drain : Enacts backend validate none none registry
    { registry with thread := registry.thread.drain backend.recording } := by
  refine ⟨(registry.thread.hushed_drain backend).log, fun hstaged hfresh => ?_⟩
  obtain ⟨later, hdrains, hlater⟩ := hstaged.drains validate hfresh
  have hfresh' : Ledger.Fresh {} later.thread.log := hlater.log ▸ hfresh
  obtain ⟨-, -, -, htraffic, hwaiting, -⟩ :=
    hstaged.custody.drains hstaged.regular hdrains hfresh'
  exact ⟨later, hdrains.reached, hlater, fun h =>
    ⟨hwaiting.trans h.waiting, (congrArg Traffic.inFlight htraffic).trans h.inFlight⟩⟩

/-! ### Visits

Inside of a job the programs in reach are those of the visit. A question from outside is a job by
itself: it comes in, looks and leaves. -/

section Visits

variable {programs : List ProgramRef}

/-- What a job does with the thread is shown as it is, whatever orders wait. -/
theorem Shown.of_thread (h : Shown registry frame scene) {thread : Thread (List Event × σ)}
    (hjobs : thread.handling registry.thread.queue registry.thread.running = thread) :
    Shown { registry with thread } frame { scene with thread := thread.handling [] [] } :=
  ⟨h.table, rfl, h.queue.trans (congrArg (fun thread => thread.queue.map Order.task) hjobs),
    h.running, (congrArg Thread.running hjobs).symm.trans h.held, h.waiting⟩

/-- In a job with programs in reach, something is done with one of them. -/
theorem enacts_visit {ref : ProgramRef} (href : ref ∈ programs) {program : Program}
    (hprogram : registry.thread.program? ref = some program) (visit : Program.Visit) :
    Enacts backend validate (some programs) (some programs) registry { registry with
      thread := (registry.thread.withProgram ref program (visit.job backend.recording)).2 } := by
  refine enacts_of_shown (Thread.hushed_visit _ _ _ visit).log fun {scene} hstaged _ => ?_
  have hprogram' : scene.thread.program? ref = some program := by
    rw [hstaged.thread]
    exact hprogram
  have hjobs := congrArg Prod.snd (registry.thread.withProgram_handling registry.thread.queue
    registry.thread.running ref program (visit.job backend.recording))
  have hscene := congrArg Prod.snd (registry.thread.withProgram_handling [] [] ref program
    (visit.job backend.recording))
  rw [← hstaged.thread] at hscene
  have hturn : Scene.Turn backend validate scene { scene with
      thread := (scene.thread.withProgram ref program (visit.job backend.recording)).2 } :=
    .visit hstaged.running href hprogram' visit
  rw [hscene] at hturn
  exact ⟨_, Scene.Reached.refl.step (.turn hturn), hstaged.of_thread hjobs.symm,
    fun h => ⟨h.waiting, h.inFlight⟩⟩

/-- In a job, no program is made current. -/
theorem enacts_unuse : Enacts backend validate (some programs) (some programs) registry
    { registry with thread := (registry.thread.perform (backend.recording.use none)).2 } := by
  refine enacts_of_shown ⟨_, (Job.log_run_recorded _ _ _ _).symm⟩ fun {scene} hstaged _ => ?_
  have hturn : Scene.Turn backend validate scene { scene with
      thread := (scene.thread.perform (backend.recording.use none)).2 } := .unuse hstaged.running
  rw [hstaged.thread, Thread.perform_handling] at hturn
  exact ⟨_, Scene.Reached.refl.step (.turn hturn), hstaged.of_thread rfl,
    fun h => ⟨h.waiting, h.inFlight⟩⟩

/-- A job begins with programs of the table in reach. -/
theorem enacts_enter (hqueue : registry.thread.queue = [])
    (hprograms : ∀ ref ∈ programs, ref ∈ registry.table.programs) :
    Enacts backend validate none (some programs) registry
      { registry with thread := registry.thread.handling registry.thread.queue programs } := by
  refine enacts_of_shown List.prefix_rfl fun {scene} hstaged _ => ?_
  have hscene : scene.queue = [] := by
    rw [hstaged.queue, hqueue]
    rfl
  exact ⟨_, Scene.reached_enter hstaged.running hscene fun ref href =>
    hstaged.table ▸ hprograms ref href, ⟨hstaged.table, hstaged.thread, hstaged.queue, rfl, rfl,
    hstaged.waiting⟩, fun h => ⟨h.waiting, h.inFlight⟩⟩

/-- A job ends. -/
theorem enacts_leave : Enacts backend validate (some programs) none registry
    { registry with thread := registry.thread.handling registry.thread.queue [] } := by
  refine enacts_of_shown List.prefix_rfl fun {scene} hstaged _ => ?_
  exact ⟨_, Scene.Reached.refl.step (.turn (.leave hstaged.running)), ⟨hstaged.table,
    hstaged.thread, hstaged.queue, rfl, rfl, hstaged.waiting⟩, fun h => ⟨h.waiting, h.inFlight⟩⟩

/-- A caller does something with a program of the table and waits for the answer. -/
theorem enacts_look (hqueue : registry.thread.queue = []) {ref : ProgramRef}
    (href : ref ∈ registry.table.programs) {program : Program}
    (hprogram : registry.thread.program? ref = some program) (visit : Program.Visit) :
    Enacts backend validate none none registry { registry with
      thread := (registry.thread.withProgram ref program (visit.job backend.recording)).2 } := by
  let entered : Registry (List Event × σ) :=
    { registry with thread := registry.thread.handling registry.thread.queue [ref] }
  have henter : Enacts backend validate none (some [ref]) registry entered :=
    enacts_enter hqueue (by simpa using href)
  have hentered : entered.thread.program? ref = some program := hprogram
  have hjob := (henter.trans (enacts_visit (List.mem_singleton_self ref) hentered visit)).trans
    enacts_leave
  refine ⟨(Thread.hushed_visit _ _ _ visit).log, fun {scene} hstaged hfresh => ?_⟩
  -- Outside of jobs nobody is noted as a holder, and behind the look nobody is again.
  have hidle : registry.thread.handling registry.thread.queue [] = registry.thread := by
    have hheld : registry.thread.running = [] := hstaged.held
    rw [← hheld]
    rfl
  simp only [entered, Thread.withProgram_handling] at hjob
  have hthread := congrArg Prod.snd (registry.thread.withProgram_handling registry.thread.queue []
    ref program (visit.job backend.recording))
  rw [hidle] at hthread
  rw [hthread] at hfresh ⊢
  exact hjob.enact hstaged hfresh

end Visits

/-! ### Requests

A request begins, its job is made, handed in and carried out, and its outcome is recorded. With one
caller nothing comes in between, so both ends of it are registries. -/

/-- What is built for a request is what the registry constructs. -/
theorem construct_eq (around : Surroundings σ) (thread : Thread σ) (prepared : Prepared) :
    construct around thread prepared =
      (Scene.outcomeOf prepared
        (thread.build around.backend prepared.bundle around.options.validate).1,
      (thread.build around.backend prepared.bundle around.options.validate).2) := by
  rw [construct]
  rcases thread.build around.backend prepared.bundle around.options.validate with ⟨_ | _, later⟩ <;>
    rfl

/-- The request is over when its outcome is recorded. -/
theorem inFlight_of_begun {step : Section} {request : Request} {outcome : Outcome}
    (hinFlight : (scene.traffic.after step).inFlight = scene.traffic.inFlight ++ [request])
    (h : scene.Unused) :
    ((scene.traffic.after step).after (request.conclusion outcome)).inFlight = [] := by
  rw [Traffic.inFlight_conclusion, hinFlight, h.inFlight]
  simp

/-- A request that fails before anything is built. -/
theorem enacts_failed (step : Section) (hplain : step.IsPlain) (request : Request)
    (failure : Failure) {table : Slots}
    (hafter : ∀ traffic : Traffic, traffic.table = registry.table →
      (traffic.after step).inFlight = traffic.inFlight ++ [request] ∧
        ((traffic.after step).after (request.conclusion (.error failure))).table = table) :
    Enacts backend validate frame frame registry { registry with table } := by
  refine enacts_of_shown List.prefix_rfl fun {scene} hstaged _ => ?_
  obtain ⟨hinFlight, htable⟩ := hafter scene.traffic hstaged.table
  have hbegun : Scene.Reached backend validate scene _ :=
    Scene.Reached.refl.step (.begin hplain hinFlight (.error failure))
  refine ⟨_, hbegun.step (.conclude rfl), ⟨htable, hstaged.thread, hstaged.queue, hstaged.running,
    hstaged.held, hstaged.waiting⟩, fun h => ⟨h.waiting, ?_⟩⟩
  exact inFlight_of_begun hinFlight h

/-- A request for which a program is built, or fails to be. -/
theorem enacts_built (step : Section) (hplain : step.IsPlain) (request : Request)
    (prepared : Prepared) (hqueue : registry.thread.queue = []) {table : Slots}
    (hafter : ∀ traffic : Traffic, traffic.table = registry.table →
      (traffic.after step).inFlight = traffic.inFlight ++ [request] ∧
        ((traffic.after step).after (request.conclusion (Scene.outcomeOf prepared
          (registry.thread.build backend.recording prepared.bundle validate).1))).table = table) :
    Enacts backend validate none none registry
      { table
        thread := (registry.thread.build backend.recording prepared.bundle validate).2 } := by
  refine enacts_of_shown (Thread.log_build _ _ _) fun {scene} hstaged _ => ?_
  obtain ⟨hinFlight, htable⟩ := hafter scene.traffic hstaged.table
  have hscene : scene.queue = [] := by
    rw [hstaged.queue, hqueue]
    rfl
  -- The request begins with its section, and a job is made for it.
  let begun : Scene σ := { scene with
    traffic := scene.traffic.after step
    waiting := scene.waiting ++ [.build request prepared] }
  have hbegun : Scene.Reached backend validate scene begun :=
    Scene.Reached.refl.step (.begin hplain hinFlight (.ok prepared))
  -- The queue was empty, so the job is the next to be carried out.
  let running : Scene σ := { scene with
    traffic := scene.traffic.after step
    running := some (.build request prepared)
    queue := [] }
  have hrunning : Scene.Reached backend validate scene running := by
    have hhanded := hbegun.trans
      (Scene.reached_handOver backend validate scene.waiting [.build request prepared] begun rfl)
    refine hhanded.step (.turn (.start hstaged.running ?_))
    change scene.queue ++ [.build request prepared] = _
    rw [hscene]
    rfl
  have hbuilt : Scene.Reached backend validate scene
      (running.builtNow backend validate request prepared) :=
    hrunning.step (.turn (.build rfl))
  -- It comes to the same on the scene, since a build does not look at the queue.
  have hanswer : running.thread.build backend.recording prepared.bundle validate =
      ((registry.thread.build backend.recording prepared.bundle validate).1,
        (registry.thread.build backend.recording prepared.bundle validate).2.handling [] []) := by
    rw [show running.thread = registry.thread.handling [] [] from hstaged.thread,
      Thread.build_handling]
  have hjobs := congrArg Prod.snd (registry.thread.build_handling registry.thread.queue
    registry.thread.running backend.recording prepared.bundle validate)
  simp only [Scene.builtNow, hanswer] at hbuilt
  refine ⟨_, hbuilt.step (.conclude rfl), ⟨htable, rfl, ?_, rfl, ?_, hstaged.waiting⟩,
    fun h => ⟨h.waiting, inFlight_of_begun hinFlight h⟩⟩
  · have hsame := congrArg Thread.queue hjobs
    exact (congrArg (List.map Order.task) (hsame.trans hqueue)).symm
  · exact (congrArg Thread.running hjobs).trans hstaged.held

end Registry

end ShaderBundle
