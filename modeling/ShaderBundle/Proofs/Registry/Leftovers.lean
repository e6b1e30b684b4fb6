import ShaderBundle.Graphics.Scripted
import ShaderBundle.Proofs.Registry.FailedReload

/-!
# What crashes leave behind

A compiler may crash over any source. The job ends there, and the graphics thread goes on with the
next one. What the job had made by then is nobody's, so the stages that were compiled before the
crash are there for good. A program is made when all is compiled, so no program is left that way.

## Two bookkeepings

The ledger of the backend knows numbers: which stages and programs were handed out and not deleted.
The thread knows objects, and the scene knows owners. That the programs in the ledger are those of
the objects, and the objects those that are owned, is said in both directions here. One of them was
known before: an object is about a program that exists. The other one, that no program exists
without an object, is what crashes could have broken.

## The conversation, job by job

Stages have no objects at all, so nothing but the conversation tells which of them are left. It is
taken apart into jobs (`Leaves`): jobs that are not about stages, builds that came to an end, and
builds that were cut short. The first two leave the stages as they were, the second because a build
deletes all stages that it has compiled. The third leaves those that it had compiled by then. The
list that is carried along is therefore exactly what there is, in the order of compilation.

## Main definitions

* `Leaves`: a conversation, job by job, with the stages that crashed builds have left.
* `Thread.Manned`: a conversation of this kind, in which every program has its object.

## Main results

* `Leaves.stages_eq`: these are the stages that there are.
* `Scene.reached_manned`: however callers and the graphics thread interleave, every program has its
  object, and `Scene.Custody.mem_programs_iff`: there are the programs that are owned.
* `Registry.Operated.leftovers`: when callers are done with a registry there are the stages that
  crashed builds have left and the programs of the table, and nothing else.

## Implementation notes

All operations but compiling are taken to end. Deleting a program that a crash could interrupt would
lose the programs that were to be deleted behind it.
-/

namespace ShaderBundle

variable {σ α : Type} {backend : Backend σ} {log : List Event} {ids : List StageId}

/-- The event neither makes nor deletes a stage. -/
def Event.SparesStages : Event → Prop
  | .reply (.stage _) | .call (.deleteStage _) => False
  | _ => True

/-- A conversation, job by job, with the stages that crashed builds have left. -/
inductive Leaves (backend : Backend σ) : List Event → List StageId → Prop where
  | nothing : Leaves backend [] []
  /-- A job that is not about stages. -/
  | aside {log events : List Event} {ids : List StageId} (h : Leaves backend log ids)
    (haside : ∀ event ∈ events, event.SparesStages) : Leaves backend (log ++ events) ids
  /-- A build that ends. -/
  | built {log events : List Event} {ids : List StageId} (h : Leaves backend log ids)
    {blocks : List Block} {validate : Bool} {answer : Except BuildError Program}
    (hcourse : Build.Course blocks validate answer events) : Leaves backend (log ++ events) ids
  /-- A build that crashes. -/
  | cut {log events : List Event} {ids left : List StageId} (h : Leaves backend log ids)
    {blocks : List Block} (hcut : Build.CutCourse backend blocks left events) :
    Leaves backend (log ++ events) (ids ++ left)

/-- What is not about stages leaves them alone. -/
theorem stages_run_of_sparesStages {events : List Event}
    (h : ∀ event ∈ events, event.SparesStages) (ledger : Ledger) :
    (ledger.run events).stages = ledger.stages := by
  induction events generalizing ledger with
  | nil => rfl
  | cons event rest ih =>
    have hfirst := h event List.mem_cons_self
    rw [Ledger.run_cons, ih fun other hother => h other (List.mem_cons_of_mem _ hother)]
    rcases event with (_ | _ | _ | _ | _ | _ | _ | _ | _ | _ | _ | _ | _) | (_ | _ | _ | _)
    case call.deleteStage | reply.stage => exact hfirst.elim
    all_goals rfl

/-- A visit is not about stages. -/
theorem Visiting.sparesStages {id : ProgramId} {events : List Event} (h : Visiting id events) :
    ∀ event ∈ events, event.SparesStages := by
  intro event hevent
  obtain ⟨call, rfl, hvisits⟩ := h event hevent
  cases call with
  | deleteStage => exact hvisits.elim
  | _ => trivial

/-- **What crashed builds have left is what there is.** -/
theorem Leaves.stages_eq (h : Leaves backend log ids) (hlegal : Ledger.Legal {} log)
    (hfresh : Ledger.Fresh {} log) : (Ledger.run {} log).stages = ids := by
  induction h with
  | nothing => rfl
  | aside _ haside ih =>
    rw [Ledger.run_append, stages_run_of_sparesStages haside]
    exact ih (Ledger.along_append.mp hlegal).1 (Ledger.along_append.mp hfresh).1
  -- A build that ends leaves the ledger as it was, with one more program at most.
  | built _ hcourse ih =>
    obtain ⟨hlegal', -⟩ := Ledger.along_append.mp hlegal
    obtain ⟨hfresh', hnew⟩ := Ledger.along_append.mp hfresh
    have hsame : ∀ (ledger : Ledger) (answer : Except BuildError Program),
        (Build.behind ledger answer).stages = ledger.stages := by
      intro ledger answer
      cases answer <;> rfl
    rw [Ledger.run_append, (hcourse.leads (Ledger.sound_empty.run hlegal') hnew).1.run_eq, hsame]
    exact ih hlegal' hfresh'
  -- One that is cut short leaves what it had compiled.
  | cut _ hcut ih =>
    rw [Ledger.run_append, (hcut.leads _).run_eq]
    exact congrArg (· ++ _) (ih (Ledger.along_append.mp hlegal).1 (Ledger.along_append.mp hfresh).1)

namespace Thread

variable {thread : Thread (List Event × σ)} {ref : ProgramRef}

/-- What was said are jobs that end and builds that crash, and every program has an object. -/
structure Manned (backend : Backend σ) (thread : Thread (List Event × σ)) : Prop where
  /-- The conversation, job by job. -/
  told : ∃ ids, Leaves backend thread.log ids
  /-- Every program has an object. -/
  owner : ∀ id ∈ (Ledger.run {} thread.log).programs, ∃ ref, (ref, id) ∈ thread.ids

theorem manned_new (backend : Backend σ) (device : σ) :
    (Thread.mk ([], device) [] 0 [] []).Manned backend :=
  ⟨⟨[], .nothing⟩, fun _ h => nomatch h⟩

/-- One more job was done, there are no more programs than before, and all objects are there. -/
theorem Manned.stay (h : thread.Manned backend) {later : Thread (List Event × σ)}
    {events : List Event} (hlog : later.log = thread.log ++ events)
    (hleaves : Leaves backend (thread.log ++ events) ids)
    (hprograms : ((Ledger.run {} thread.log).run events).programs ⊆
      (Ledger.run {} thread.log).programs) (hids : later.ids = thread.ids) :
    later.Manned backend := by
  refine ⟨⟨ids, hlog ▸ hleaves⟩, fun id hid => ?_⟩
  rw [hlog, Ledger.run_append] at hid
  rw [hids]
  exact h.owner id (hprograms hid)

/-- **A build that ends leaves nothing but its program, which gets an object, and one that crashes
leaves stages.** -/
theorem Manned.build (h : thread.Manned backend) (halive : thread.Alive) (hsteady : backend.Steady)
    (bundle : Bundle) (validate : Bool)
    (hfresh : Ledger.Fresh {} (thread.build backend.recording bundle validate).2.log) :
    (thread.build backend.recording bundle validate).2.Manned backend := by
  obtain ⟨before, hleaves⟩ := h.told
  have hsound := Ledger.sound_empty.run halive.legal
  obtain ⟨events, hlog, -, hcourse, hcut⟩ := perform_crashesOnly
    (Build.build_records bundle validate) (Build.build_cut hsteady bundle validate) thread
  rw [Thread.build] at hfresh ⊢
  rcases hperform : thread.perform (Build.build backend.recording bundle validate) with
    ⟨_ | error | program, later⟩
  all_goals
    rw [hperform] at hlog hcourse hcut hfresh
    have hids : later.ids = thread.ids := (congrArg (Thread.ids ·.2) hperform).symm
    change Ledger.Fresh {} later.log at hfresh
    rw [hlog] at hfresh
    have hevents := (Ledger.along_append.mp hfresh).2
  -- It has crashed. No program was made, and objects stay.
  · obtain ⟨left, hcut⟩ := hcut rfl
    refine h.stay hlog (hleaves.cut hcut) ?_ hids
    rw [(hcut.leads _).run_eq]
    exact List.Subset.refl _
  -- It has failed.
  · refine h.stay hlog (hleaves.built hcourse) ?_ hids
    rw [(Build.Course.leads hcourse hsound hevents).1.run_eq]
    exact List.Subset.refl _
  -- It has made a program, for which an object is kept.
  · refine ⟨⟨before, ?_⟩, fun id hid => ?_⟩
    · exact hlog ▸ hleaves.built hcourse
    · have hkeep : (later.keep program).2.ids = thread.ids ++ [(⟨later.made⟩, program.id)] := by
        rw [← hids]
        simp [keep, ids]
      have hid' : id ∈ (Ledger.run {} later.log).programs := hid
      rw [hlog, Ledger.run_append, (Build.Course.leads hcourse hsound hevents).1.run_eq] at hid'
      rw [hkeep]
      rcases List.mem_append.mp hid' with hold | hnew
      · obtain ⟨ref, href⟩ := h.owner id hold
        exact ⟨ref, List.mem_append_left _ href⟩
      · obtain rfl := List.mem_singleton.mp hnew
        exact ⟨_, List.mem_append_right _ (List.mem_singleton_self _)⟩

theorem Manned.visit (h : thread.Manned backend) (halive : thread.Alive) {program : Program}
    (hprogram : thread.program? ref = some program) (visit : Program.Visit) :
    (thread.withProgram ref program (visit.job backend.recording)).2.Manned backend := by
  obtain ⟨events, hvisiting, hlog⟩ := thread.log_visit ref program visit
  obtain ⟨current, hleads⟩ := hvisiting.leads (halive.exist _ (mem_ids_of_program? hprogram))
  obtain ⟨before, hleaves⟩ := h.told
  refine h.stay hlog (hleaves.aside hvisiting.sparesStages) ?_
    (halive.visit backend hprogram visit).2.2
  rw [hleads.run_eq]
  exact List.Subset.refl _

theorem Manned.unuse (h : thread.Manned backend) :
    (thread.perform (backend.recording.use none)).2.Manned backend := by
  have hlog : (thread.perform (backend.recording.use none)).2.log =
      thread.log ++ [.call (.use none)] := Job.log_run_recorded _ _ _ _
  obtain ⟨before, hleaves⟩ := h.told
  refine h.stay hlog (hleaves.aside fun event hevent => ?_) (List.Subset.refl _) rfl
  rw [List.mem_singleton.mp hevent]
  trivial

/-- The object and its program go together. -/
theorem Manned.destroy (h : thread.Manned backend) (halive : thread.Alive) (ref : ProgramRef) :
    (thread.destroy backend.recording ref).2.Manned backend := by
  rcases hprogram : thread.program? ref with _ | program
  · rw [Thread.destroy, hprogram]
    exact h
  · obtain ⟨before, hleaves⟩ := h.told
    have hlog : (thread.destroy backend.recording ref).2.log = _ := log_destroy hprogram
    have hids : (thread.destroy backend.recording ref).2.ids = _ := ids_destroy hprogram
    refine ⟨⟨before, hlog ▸ hleaves.aside fun event hevent => ?_⟩, fun id hid => ?_⟩
    · rw [List.mem_singleton.mp hevent]
      trivial
    · rw [hlog, Ledger.run_append] at hid
      obtain ⟨hold, hne⟩ := List.mem_filter.mp hid
      -- A program that still exists has an object, and it is not the one that goes, since that
      -- one's program was deleted.
      obtain ⟨other, hother⟩ := h.owner id hold
      rw [hids]
      refine ⟨other, List.mem_filter.mpr ⟨hother, decide_eq_true fun heq => ?_⟩⟩
      obtain rfl : other = ref := heq
      have hsame := halive.id_eq hother (mem_ids_of_program? hprogram)
      exact of_decide_eq_true hne hsame

end Thread

namespace Scene

variable {validate : Bool} {device : σ} {scene later : Scene σ}

/-- **Whatever the graphics thread does, every program has its object.** -/
theorem Custody.manned_turn (h : scene.Custody) (hmanned : scene.thread.Manned backend)
    (hsteady : backend.Steady) (hturn : Turn backend validate scene later)
    (hfresh : Ledger.Fresh {} later.thread.log) : later.thread.Manned backend := by
  cases hturn with
  | start | leave | done => exact hmanned
  | build => exact hmanned.build h.alive hsteady _ _ hfresh
  | visit _ _ hprogram visit => exact hmanned.visit h.alive hprogram visit
  | unuse => exact hmanned.unuse
  | @destroy ref rest =>
    have hdestroy := hmanned.destroy h.alive ref
    rw [destroyed]
    split
    -- The object is gone either way, crash or not.
    · rcases hcase : scene.thread.destroy backend.recording ref with ⟨_ | _, thread⟩
      all_goals
        rw [hcase] at hdestroy
        exact hdestroy
    · exact hmanned

/-- Callers do nothing at the backend. -/
theorem Custody.manned_step (h : scene.Custody) (hmanned : scene.thread.Manned backend)
    (hsteady : backend.Steady) (hstep : Step backend validate scene later)
    (hfresh : Ledger.Fresh {} later.thread.log) : later.thread.Manned backend := by
  cases hstep with
  | turn hturn => exact h.manned_turn hmanned hsteady hturn hfresh
  | begin _ _ result => cases result <;> exact hmanned
  | _ => exact hmanned

theorem reached_manned (hsteady : backend.Steady)
    (hreached : Reached backend validate (.new device) scene)
    (hfresh : Ledger.Fresh {} scene.thread.log) : scene.thread.Manned backend := by
  induction hreached with
  | refl => exact Thread.manned_new backend device
  | step hmiddle hstep ih =>
    have hmiddle' := fresh_of_log hstep.log hfresh
    have hcustody := ((custody_new device).reached (regular_new device) hmiddle hmiddle').1
    exact hcustody.manned_step (ih hmiddle') hsteady hstep hfresh

/-- **There are the programs that are owned**, as long as none is lost. -/
theorem Custody.mem_programs_iff (h : scene.Custody) (hmanned : scene.thread.Manned backend)
    (hlost : scene.lost = []) (id : ProgramId) :
    id ∈ (Ledger.run {} scene.thread.log).programs ↔
      ∃ ref ∈ scene.owned, (ref, id) ∈ scene.thread.ids := by
  refine ⟨fun hid => ?_, fun ⟨_, _, hpair⟩ => h.alive.exist _ hpair⟩
  obtain ⟨ref, hpair⟩ := hmanned.owner id hid
  refine ⟨ref, List.count_pos_iff.mp ?_, hpair⟩
  have hcount := h.owners ref
  have hpos : 0 < scene.thread.refs.count ref :=
    List.count_pos_iff.mpr (List.mem_map_of_mem hpair)
  rw [hlost, List.count_nil] at hcount
  omega

end Scene

namespace Registry

variable {device : σ} {registry : Registry (List Event × σ)} {scene : Scene σ}

/-- When callers are done and no order waits, the table owns all programs. -/
theorem Staged.owned_eq (h : Staged registry none scene) (hunused : scene.Unused)
    (hqueue : registry.thread.queue = []) : scene.owned = registry.table.held := by
  rw [Scene.owned, h.regular.built_eq_nil hunused, hunused.waiting, Scene.tasks, h.running, h.queue,
    hqueue, h.table]
  simp

/-- **When callers are done with a registry, there are the stages that crashed builds have left and
the programs of the table**, ready or retired, and nothing else. -/
theorem Operated.leftovers {options : RegistryOptions} (hsteady : backend.Steady)
    (h : Operated backend.recording options (opened device) registry)
    (hfresh : Ledger.Fresh {} registry.thread.log) :
    (∀ ids, (registry.ledger backend).stages = ids ↔
      Leaves backend (registry.thread.drain backend.recording).log ids) ∧
      ∀ id, id ∈ (registry.ledger backend).programs ↔
        ∃ ref ∈ registry.table.held, (ref, id) ∈ (registry.thread.drain backend.recording).ids := by
  have hdrain := (registry.thread.hushed_drain backend).fresh hfresh
  -- Steps lead to a scene that shows the registry behind the orders that wait.
  obtain ⟨scene, hreached, hstaged, hunused⟩ :=
    (h.enacts.trans enacts_drain).enact (staged_opened device) hdrain
  have hlegal := hstaged.custody.alive.legal
  have hlog := hstaged.log
  have hmanned := Scene.reached_manned hsteady hreached (hlog ▸ hdrain)
  have hlost := Scene.lost_of_reached hreached (hlog ▸ hdrain) fun id =>
    hsteady (.deleteProgram id) nofun
  -- Nothing is lost and no order waits, so the table owns all programs that there are.
  have hprograms := hstaged.custody.mem_programs_iff hmanned hlost
  obtain ⟨left, hleaves⟩ := hmanned.told
  rw [hlog] at hlegal hleaves
  rw [hstaged.owned_eq (hunused ⟨rfl, rfl⟩) (Thread.queue_drain _ _), hlog, hstaged.thread]
    at hprograms
  refine ⟨fun ids => ⟨?_, fun hids => hids.stages_eq hlegal hdrain⟩, hprograms⟩
  rintro rfl
  rwa [ledger, hleaves.stages_eq hlegal hdrain]

/-! ### A source that crashes the compiler

The scripted backend crashes over a marker in the source. A file with the marker in its second stage
is loaded: the first stage is compiled and left, and the caller is told that the graphics thread is
not available. -/

/-- The scripted backend crashes over sources only. -/
theorem scripted_steady : Scripted.backend.Steady := by
  intro α call replies job h hcall
  cases h with
  | compile stage source => exact absurd rfl (hcall stage)
  | _ => exact Job.finishes_step _

/-- A file whose fragment stage crashes the compiler. -/
def crashingFile : Text :=
  "#version 410\n#pragma vertex\n@entry void v(){}\n#pragma fragment\n@entry void f(){DRIVER_CRASH}\n".toList

/-- The scripted backend, with that file behind the name `a`. -/
def crashingAround : Surroundings Scripted.State where
  backend := Scripted.backend
  loader := Loader.ofTable [(['a'], crashingFile)]

/-- A request for that file. -/
def crashed : Except RegistryError Handle × Registry (List Event × Scripted.State) :=
  acquire crashingAround.recording .outside ['a'] (opened {})

/-- The vertex stage is what it leaves, and there are no programs. -/
theorem leftovers_crashed :
    Leaves Scripted.backend crashed.2.thread.log [⟨1⟩] ∧
      ∀ id, id ∉ (crashed.2.ledger Scripted.backend).programs := by
  have hoperated : Operated Scripted.backend.recording {} (opened {}) crashed.2 :=
    Operated.refl.acquire crashingAround.loader .outside ['a']
  obtain ⟨hstages, hprograms⟩ := Operated.leftovers scripted_steady hoperated (by decide +kernel)
  -- The registry behind the request is computed; what it means is read off the general statement.
  have hafter : crashed.2.thread.queue = [] ∧ crashed.2.table.held = [] ∧
      (crashed.2.ledger Scripted.backend).stages = [⟨1⟩] := by decide +kernel
  obtain ⟨hqueue, hheld, hleft⟩ := hafter
  refine ⟨?_, fun id hid => ?_⟩
  · have hleaves := (hstages [⟨1⟩]).mp hleft
    rwa [Thread.drain_of_nil hqueue] at hleaves
  · obtain ⟨ref, href, -⟩ := (hprograms id).mp hid
    rw [hheld] at href
    exact List.not_mem_nil href

/-- The caller is told that the thread is not available. The vertex stage was handed out, no job is
left to be done, and the stage is not deleted. -/
theorem acquire_leaves_stage :
    crashed.1 = .error (.build (.thread .unavailable)) ∧ crashed.2.thread.queue = [] ∧
      .reply (.stage ⟨1⟩) ∈ crashed.2.thread.log ∧
      .call (.deleteStage ⟨1⟩) ∉ crashed.2.thread.log ∧
      (crashed.2.ledger Scripted.backend).stages = [⟨1⟩] := by
  decide +kernel

end Registry

end ShaderBundle
