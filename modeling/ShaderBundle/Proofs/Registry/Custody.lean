import ShaderBundle.Proofs.Registry.Scene

/-!
# Who holds a program

Every object of the graphics thread has one owner: the table, an outcome that is not recorded yet,
or a job that destroys it. Those who borrow it find it there, since no job destroys what one behind
it visits. The graphics thread keeps this up with everything that it does.

## Owners are counted

That every object has one owner is said by counting: a reference occurs among the owners, together
with what is lost, as often as there is an object for it. Objects have references of their own, so
that is once or not at all. An equation of counts is kept by moving a reference from one owner to
another without any case distinction about who these are, which is what most steps do.

## Borrowers

A job that visits programs took references to them while they were in the table, and may be carried
out much later. By then a program may have been replaced and retired, and a sweep may have wanted to
destroy it. It could not, as the registry counts references and the job has one. What is kept here
is the consequence of this for the order of jobs: none destroys a program that a later one visits
(`orderly`), and no job that a caller still has to hand in stands in such a relation to any other,
in either order (`apart`), since it is not known when it will be handed in.

## What is lost

A job that destroys several programs may crash over one of them, if the backend crashes. Those
behind it have no owner from then on, and they are noted as lost. Nothing is lost over a backend
that does not crash there; that is shown where it is needed.

## Main definitions

* `Scene.Custody`: every object has one owner, and what is borrowed is there.
* `Scene.Regular`: the requests in flight are those that are built for.

## Main results

* `Scene.Custody.holders_eq_one`: a program that is to be destroyed has no other holder.
* `Scene.Custody.turn`: custody is kept up by the graphics thread.
-/

namespace ShaderBundle.Scene

variable {σ : Type} {backend : Backend σ} {validate : Bool} {scene later : Scene σ}

/-- No program that the one job destroys is visited by the other. -/
def Spares (first second : Task) : Prop :=
  ∀ ref ∈ first.destroyed, ref ∉ second.visited

/-- The one job destroys and visits nothing that the other does not. -/
def Within (part task : Task) : Prop :=
  part.destroyed ⊆ task.destroyed ∧ part.visited ⊆ task.visited

/-- Every program object has one owner, and while anybody borrows it, it is not destroyed. -/
structure Custody (scene : Scene σ) : Prop where
  /-- The objects of the graphics thread are about programs of their own. -/
  alive : scene.thread.Alive
  /-- An object has one owner, or it is lost. -/
  owners : ∀ ref,
    scene.owned.count ref + scene.lost.count ref = scene.thread.refs.count ref
  /-- What is borrowed is there. -/
  borrowed : ∀ ref ∈ scene.borrowed, ref ∈ scene.thread.refs
  /-- No job destroys what a later one visits. -/
  orderly : scene.tasks.Pairwise Spares
  /-- No job that is not handed in yet gets in the way of any other. -/
  apart : ∀ task ∈ scene.waiting, ∀ other ∈ scene.waiting ++ scene.tasks,
    Spares task other ∧ Spares other task

/-- The requests in flight are those that are built for, and everything in the table is accounted
for. -/
structure Regular (scene : Scene σ) : Prop where
  /-- Everything in the table is accounted for. -/
  owned : scene.traffic.Owned
  /-- No name is in the table twice. -/
  keyed : scene.traffic.table.Keyed
  /-- The requests in flight are those that are built for. -/
  requests : ∀ request,
    scene.requests.count request = scene.traffic.inFlight.count request

/-! ### Jobs and parts of them

While a job is carried out it becomes less. A part of a job destroys and visits nothing that the job
does not, so it is in nobody's way either. -/

theorem within_refl (task : Task) : Within task task :=
  ⟨List.Subset.refl _, List.Subset.refl _⟩

theorem Spares.within {first second part other : Task} (h : Spares first second)
    (hfirst : Within part first) (hsecond : Within other second) : Spares part other :=
  fun ref href hvisited => h ref (hfirst.1 href) (hsecond.2 hvisited)

/-! ### Counting -/

theorem count_owned (scene : Scene σ) (ref : ProgramRef) : scene.owned.count ref =
    scene.traffic.table.held.count ref +
      (scene.built.flatMap fun entry => entry.2.programs).count ref +
      (scene.waiting.flatMap Task.destroyed).count ref +
      (scene.tasks.flatMap Task.destroyed).count ref := by
  simp only [owned, List.flatMap_append, List.count_append]
  omega

theorem mem_borrowed {ref : ProgramRef} : ref ∈ scene.borrowed ↔
    ∃ task, (task ∈ scene.waiting ∨ task ∈ scene.tasks) ∧ ref ∈ task.visited := by
  simp only [borrowed, List.mem_flatMap, List.mem_append]

theorem count_requests (scene : Scene σ) (request : Request) : scene.requests.count request =
    (scene.waiting.flatMap Task.requests).count request +
      (scene.tasks.flatMap Task.requests).count request +
      (scene.built.map Prod.fst).count request := by
  simp only [requests, List.flatMap_append, List.count_append]

theorem tasks_of_running {task : Task} (h : scene.running = some task) :
    scene.tasks = task :: scene.queue := by
  rw [tasks, h]
  rfl

theorem mem_tasks_of_running {task : Task} (h : scene.running = some task) :
    task ∈ scene.tasks := by
  rw [tasks_of_running h]
  exact List.mem_cons_self

theorem mem_owned_of_tasks {task : Task} (htask : task ∈ scene.tasks) {ref : ProgramRef}
    (href : ref ∈ task.destroyed) : ref ∈ scene.owned :=
  List.mem_append_right _ (List.mem_flatMap.mpr ⟨task, List.mem_append_right _ htask, href⟩)

theorem Custody.count_owned_le (h : scene.Custody) (ref : ProgramRef) :
    scene.owned.count ref ≤ 1 := by
  have hcount := h.owners ref
  have hle := List.nodup_iff_count_le_one.mp h.alive.refs ref
  omega

theorem Custody.mem_refs (h : scene.Custody) {ref : ProgramRef} (howned : ref ∈ scene.owned) :
    ref ∈ scene.thread.refs := by
  have hcount := h.owners ref
  have hpos := List.count_pos_iff.mpr howned
  exact List.count_pos_iff.mp (by omega)

/-! ### Turns

A turn takes a part of the running job off, changes the thread, or both. `of_part` and `of_thread`
are these two changes by themselves, and each turn is one of them or one after the other. -/

/-- The next job is taken out of the queue. -/
theorem Custody.start (h : scene.Custody) {task : Task} {rest : List Task}
    (hidle : scene.running = none) (hqueue : scene.queue = task :: rest) :
    ({ scene with running := some task, queue := rest } : Scene σ).Custody := by
  have htasks : ({ scene with running := some task, queue := rest } : Scene σ).tasks =
      scene.tasks := by simp [tasks, hidle, hqueue]
  obtain ⟨halive, howners, hborrowed, horderly, hapart⟩ := h
  rw [Scene.owned, ← htasks] at howners
  rw [Scene.borrowed, ← htasks] at hborrowed
  exact ⟨halive, howners, hborrowed, by rwa [htasks], by rwa [htasks]⟩

/-- What is left of a job takes its place. It does not get in the way of the others, since the job
did not. -/
theorem Custody.of_part (h : scene.Custody) {task : Task} (hrunning : scene.running = some task)
    {running : Option Task} (hpart : ∀ part ∈ running.toList, Within part task)
    {thread : Thread (List Event × σ)} (halive : thread.Alive) {lost : List ProgramRef}
    (howners : ∀ ref, ({ scene with thread, running, lost } : Scene σ).owned.count ref +
      lost.count ref = thread.refs.count ref)
    (hborrowed : ∀ ref ∈ scene.borrowed, ref ∈ thread.refs) :
    ({ scene with thread, running, lost } : Scene σ).Custody := by
  -- Every job behind the turn is, or is a part of, one that was there.
  have hwithin : ∀ other ∈ running.toList ++ scene.queue, ∃ old ∈ scene.tasks,
      Within other old := by
    intro other hother
    rcases List.mem_append.mp hother with hleft | hqueue
    · exact ⟨task, mem_tasks_of_running hrunning, hpart other hleft⟩
    · refine ⟨other, ?_, within_refl other⟩
      rw [tasks_of_running hrunning]
      exact List.mem_cons_of_mem _ hqueue
  refine ⟨halive, howners, fun ref href => hborrowed ref ?_, ?_,
    fun first hfirst other hother => ?_⟩
  · obtain ⟨other, hwaiting | hother, hvisited⟩ := mem_borrowed.mp href
    · exact mem_borrowed.mpr ⟨other, .inl hwaiting, hvisited⟩
    · obtain ⟨old, hold, hother⟩ := hwithin other hother
      exact mem_borrowed.mpr ⟨old, .inr hold, hother.2 hvisited⟩
  -- The part is in front of the queue, where the job was.
  · have horderly := h.orderly
    rw [tasks_of_running hrunning, List.pairwise_cons] at horderly
    refine List.pairwise_append.mpr ⟨?_, horderly.2, fun part hleft other hother =>
      (horderly.1 other hother).within (hpart part hleft) (within_refl other)⟩
    cases running with
    | none => exact List.Pairwise.nil
    | some part => exact List.pairwise_singleton _ part
  -- Jobs that are not handed in yet keep apart from the part as from the job.
  · rcases List.mem_append.mp hother with hwaiting | hother
    · exact h.apart first hfirst other (List.mem_append_left _ hwaiting)
    · obtain ⟨old, hold, hwithin⟩ := hwithin other hother
      obtain ⟨hspares, hspared⟩ := h.apart first hfirst old (List.mem_append_right _ hold)
      exact ⟨hspares.within (within_refl first) hwithin, hspared.within hwithin (within_refl first)⟩

/-- A job that owns nothing is over, whatever it did to objects. -/
theorem Custody.leave (h : scene.Custody) {task : Task} (hrunning : scene.running = some task)
    (hdestroyed : task.destroyed = []) :
    ({ scene with running := none } : Scene σ).Custody := by
  refine h.of_part hrunning (by simp) h.alive (fun ref => ?_) h.borrowed
  have hcount := h.owners ref
  rw [count_owned, tasks_of_running hrunning] at hcount
  rw [count_owned]
  simpa [tasks, hdestroyed] using hcount

/-- The thread has other objects, and outcomes own the new ones. -/
theorem Custody.of_thread (h : scene.Custody) {thread : Thread (List Event × σ)}
    (built : List (Request × Outcome)) (fresh : List ProgramRef) (halive : thread.Alive)
    (hrefs : thread.refs = scene.thread.refs ++ fresh)
    (hbuilt : ∀ ref, (built.flatMap fun entry => entry.2.programs).count ref =
      (scene.built.flatMap fun entry => entry.2.programs).count ref + fresh.count ref) :
    ({ scene with thread, built } : Scene σ).Custody := by
  refine ⟨halive, fun ref => ?_, fun ref href => ?_, h.orderly, h.apart⟩
  · have hcount := h.owners ref
    have hnew := hbuilt ref
    rw [count_owned] at hcount ⊢
    simp only [hrefs, List.count_append, tasks] at hcount ⊢
    omega
  · rw [hrefs]
    exact List.mem_append_left _ (h.borrowed ref href)

/-- Nobody borrows a program that is to be destroyed next. -/
theorem Custody.notMem_borrowed (h : scene.Custody) {ref : ProgramRef} {rest : List ProgramRef}
    (hrunning : scene.running = some (.destroy (ref :: rest))) : ref ∉ scene.borrowed := by
  have hmem : ref ∈ (Task.destroy (ref :: rest)).destroyed := List.mem_cons_self
  rw [mem_borrowed]
  rintro ⟨task, hwaiting | htask, hvisited⟩
  · exact (h.apart task hwaiting (.destroy (ref :: rest))
      (List.mem_append_right _ (mem_tasks_of_running hrunning))).2 ref hmem hvisited
  · have horderly := h.orderly
    rw [tasks_of_running hrunning] at horderly htask
    rcases List.mem_cons.mp htask with rfl | hqueue
    · cases hvisited
    · exact (List.pairwise_cons.mp horderly).1 task hqueue ref hmem hvisited

/-- A program that is to be destroyed has no other holder. -/
theorem Custody.holders_eq_one (h : scene.Custody) {ref : ProgramRef} {rest : List ProgramRef}
    (hrunning : scene.running = some (.destroy (ref :: rest))) : scene.holders ref = 1 := by
  have howned : ref ∈ scene.owned :=
    mem_owned_of_tasks (mem_tasks_of_running hrunning) List.mem_cons_self
  have hle := h.count_owned_le ref
  have hpos := List.count_pos_iff.mpr howned
  rw [holders, List.count_append, List.count_eq_zero.mpr (h.notMem_borrowed hrunning)]
  omega

/-- The object of the next program to be destroyed. -/
theorem Custody.exists_id (h : scene.Custody) {ref : ProgramRef} {rest : List ProgramRef}
    (hrunning : scene.running = some (.destroy (ref :: rest))) :
    ∃ id, (ref, id) ∈ scene.thread.ids := by
  have hmem := h.mem_refs (mem_owned_of_tasks (mem_tasks_of_running hrunning) List.mem_cons_self)
  obtain ⟨⟨_, id⟩, hid, rfl⟩ := List.mem_map.mp hmem
  exact ⟨id, hid⟩

/-- With the object of a program goes what the job owned of it. -/
theorem Custody.owners_destroy (h : scene.Custody) {ref : ProgramRef} {rest : List ProgramRef}
    (hrunning : scene.running = some (.destroy (ref :: rest)))
    {thread : Thread (List Event × σ)} (hrefs : thread.refs = scene.thread.refs.filter (· ≠ ref))
    {running : Option Task} {lost : List ProgramRef}
    (hrest : ∀ other, (running.toList.flatMap Task.destroyed).count other + lost.count other =
      rest.count other + scene.lost.count other) (other : ProgramRef) :
    ({ scene with thread, running, lost } : Scene σ).owned.count other + lost.count other =
      thread.refs.count other := by
  have hcount := h.owners other
  have hleft := hrest other
  rw [count_owned, tasks_of_running hrunning] at hcount
  rw [count_owned, hrefs]
  simp only [tasks, List.flatMap_append, List.count_append, List.flatMap_cons] at hcount ⊢
  -- The job has owned the reference once, since objects have references of their own. The counts of
  -- the others stay.
  by_cases hsame : other = ref
  · subst hsame
    have hgone : (scene.thread.refs.filter (· ≠ other)).count other = 0 :=
      List.count_eq_zero.mpr (by simp)
    have hle := List.nodup_iff_count_le_one.mp h.alive.refs other
    simp only [Task.destroyed, List.count_cons_self] at hcount
    omega
  · have hkept : (scene.thread.refs.filter (· ≠ ref)).count other =
        scene.thread.refs.count other := List.count_filter (by simpa using hsame)
    simp only [Task.destroyed, List.count_cons_of_ne (Ne.symm hsame)] at hcount
    omega

/-- A program is destroyed. What is left to be destroyed is owned by the job, or it is lost. -/
theorem Custody.destroy (h : scene.Custody) {ref : ProgramRef} {rest : List ProgramRef}
    (hrunning : scene.running = some (.destroy (ref :: rest)))
    {thread : Thread (List Event × σ)} (halive : thread.Alive)
    (hrefs : thread.refs = scene.thread.refs.filter (· ≠ ref)) {running : Option Task}
    {lost : List ProgramRef}
    (hrest : running = some (.destroy rest) ∧ lost = scene.lost ∨
      running = none ∧ lost = scene.lost ++ rest) :
    ({ scene with thread, running, lost } : Scene σ).Custody := by
  -- The rest of the job is a part of it, or nothing is left of the job.
  have hpart : ∀ part ∈ running.toList, Within part (.destroy (ref :: rest)) := by
    intro part hpart
    rcases hrest with ⟨rfl, -⟩ | ⟨rfl, -⟩
    · obtain rfl := List.mem_singleton.mp hpart
      exact ⟨List.subset_cons_self ref rest, List.Subset.refl _⟩
    · cases hpart
  -- Either way the rest has an owner, or it is lost.
  have hleft : ∀ other, (running.toList.flatMap Task.destroyed).count other + lost.count other =
      rest.count other + scene.lost.count other := by
    intro other
    rcases hrest with ⟨rfl, rfl⟩ | ⟨rfl, rfl⟩
    · simp [Task.destroyed]
    · simp [List.count_append, Nat.add_comm]
  refine h.of_part hrunning hpart halive (h.owners_destroy hrunning hrefs hleft)
    fun other hother => ?_
  -- What is borrowed stays, as the one that goes was not borrowed.
  have hne : other ≠ ref := fun heq => h.notMem_borrowed hrunning (heq ▸ hother)
  rw [hrefs]
  exact List.mem_filter.mpr ⟨h.borrowed other hother, by simpa using hne⟩

/-- Unless it builds, the graphics thread hands nothing out. -/
theorem Turn.hushed (hturn : Turn backend validate scene later)
    (hbuild : ∀ request prepared, scene.running ≠ some (.build request prepared)) :
    scene.thread.Hushed later.thread := by
  cases hturn with
  | start | leave | done => exact Thread.hushed_refl _
  | build hrunning => exact absurd hrunning (hbuild _ _)
  | visit _ _ _ visit => exact Thread.hushed_visit _ _ _ visit
  | unuse => exact Thread.hushed_use backend _ _
  | @destroy ref _ =>
    -- The thread is the same whether or not the deletion has crashed.
    have hhushed := scene.thread.hushed_destroy backend ref
    rw [destroyed]
    split
    · rcases hdestroy : scene.thread.destroy backend.recording ref with ⟨_ | _, later⟩
      all_goals
        rw [hdestroy] at hhushed
        exact hhushed
    · exact Thread.hushed_refl _

/-- The graphics thread adds to what was said. -/
theorem Turn.log (hturn : Turn backend validate scene later) :
    scene.thread.log <+: later.thread.log := by
  by_cases hbuild : ∀ request prepared, scene.running ≠ some (.build request prepared)
  · exact (hturn.hushed hbuild).log
  · cases hturn with
    | build => exact Thread.log_build _ _ _
    | start hidle => simp [hidle] at hbuild
    | visit hrunning | unuse hrunning | leave hrunning | destroy hrunning | done hrunning =>
      simp [hrunning] at hbuild

/-- Steps add to what was said. -/
theorem Step.log (hstep : Step backend validate scene later) :
    scene.thread.log <+: later.thread.log := by
  cases hstep with
  | turn hturn => exact hturn.log
  | begin _ _ result => cases result <;> exact List.prefix_rfl
  | _ => exact List.prefix_rfl

/-- If nothing in use is handed out in all that is said, nothing is in what was said first. -/
theorem fresh_of_log (hlog : scene.thread.log <+: later.thread.log)
    (hfresh : Ledger.Fresh {} later.thread.log) : Ledger.Fresh {} scene.thread.log :=
  Ledger.along_of_prefix hlog hfresh

/-- A program that is built is owned by its outcome. -/
theorem Custody.build (h : scene.Custody) {request : Request} {prepared : Registry.Prepared}
    (hrunning : scene.running = some (.build request prepared))
    (hfresh : Ledger.Fresh {}
      (scene.builtNow backend validate request prepared).thread.log) :
    (scene.builtNow backend validate request prepared).Custody ∧
      scene.thread.Onward (scene.builtNow backend validate request prepared).thread := by
  obtain ⟨halive, honward, hanswer⟩ := h.alive.build prepared.bundle validate hfresh
  let answer := scene.thread.build backend.recording prepared.bundle validate
  -- A build that ends well adds one object, and its outcome owns that. Any other adds none.
  have hrefs : answer.2.refs =
      scene.thread.refs ++ (outcomeOf prepared answer.1).programs := by
    rcases hcase : answer.1 with error | ref
    · simp only [answer] at hcase
      rw [hcase] at hanswer
      exact (congrArg (List.map Prod.fst) hanswer).trans (List.append_nil _).symm
    · simp only [answer] at hcase
      rw [hcase] at hanswer
      obtain ⟨id, hids⟩ := hanswer
      exact (congrArg (List.map Prod.fst) hids).trans List.map_append
  -- The outcome is added while the job still runs, and then the job is over.
  have hcustody := h.of_thread (scene.built ++ [(request, outcomeOf prepared answer.1)]) _
    halive hrefs fun ref => by simp [List.count_append]
  exact ⟨hcustody.leave hrunning rfl, honward⟩

/-- **Whatever the graphics thread does, every program object keeps its owner.** -/
theorem Custody.turn (h : scene.Custody) (hturn : Turn backend validate scene later)
    (hfresh : Ledger.Fresh {} later.thread.log) :
    later.Custody ∧ scene.thread.Onward later.thread := by
  -- Visits change what objects remember, and no more.
  have hsame : ∀ {thread : Thread (List Event × σ)}, thread.Alive →
      thread.ids = scene.thread.ids → ({ scene with thread } : Scene σ).Custody := by
    intro thread halive hids
    exact h.of_thread scene.built [] halive
      ((congrArg (List.map Prod.fst) hids).trans (List.append_nil _).symm) fun _ => rfl
  cases hturn with
  | start hidle hqueue => exact ⟨h.start hidle hqueue, Thread.onward_refl _⟩
  | build hrunning => exact h.build hrunning hfresh
  | visit hrunning href hprogram visit =>
    obtain ⟨halive, honward, hids⟩ := h.alive.visit backend hprogram visit
    exact ⟨hsame halive hids, honward⟩
  | unuse hrunning =>
    obtain ⟨halive, honward, hids⟩ := h.alive.unuse backend
    exact ⟨hsame halive hids, honward⟩
  | leave hrunning => exact ⟨h.leave hrunning rfl, Thread.onward_refl _⟩
  | @destroy ref _ hrunning =>
    -- Nobody else holds the program, so it is destroyed, and the backend may crash over that.
    obtain ⟨id, hid⟩ := h.exists_id hrunning
    have hdestroy := h.alive.destroy backend hid
    rw [destroyed, if_pos (h.holders_eq_one hrunning)]
    rcases hcase : scene.thread.destroy backend.recording ref with ⟨_ | _, later⟩
    all_goals
      rw [hcase] at hdestroy
      obtain ⟨halive, honward, hrefs⟩ := hdestroy
    · exact ⟨h.destroy hrunning halive hrefs (.inr ⟨rfl, rfl⟩), honward⟩
    · exact ⟨h.destroy hrunning halive hrefs (.inl ⟨rfl, rfl⟩), honward⟩
  | done hrunning => exact ⟨h.leave hrunning rfl, Thread.onward_refl _⟩

end ShaderBundle.Scene
