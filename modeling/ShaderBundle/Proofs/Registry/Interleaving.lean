import ShaderBundle.Proofs.Registry.Custody

/-!
# Callers and custody

Callers take programs from the table to outcomes and back, retire them, and borrow what is in the
table. So they keep custody up as well, in whatever order they and the graphics thread come.

## Three ways to change owners

What callers do comes down to three changes of a scene. Programs move between the table and the
outcomes that wait to be recorded (`of_table`). Jobs are made, and what they own comes out of the
table (`of_waiting`). Jobs that were made are handed in, or given up if they own nothing
(`of_fewer`). Every step of a caller is one of the three, or a section followed by one, and the
counting of owners is done once for each change.

## Why borrowers are safe

A job that borrows programs is made of programs in the table, and at that moment no job destroys any
of them: each has the table as its owner, and there is only one. A job that destroys is made of
retired programs with a single holder, so no job that is there borrows one of these. Between them
the two cases say that neither kind of job is ever made against one of the other kind, and that is
all that the order of jobs needs.

## Requests in flight

The other half of what is kept, that requests in flight are those that are built for, is about the
same steps and is shown along with it. A request is in flight from the section that begins it to the
one that records its outcome, and in between there is a job or an outcome for it.

## Main results

* `Scene.Custody.enter`, `Scene.Custody.begun`, `Scene.Custody.conclude`, `Scene.Custody.swept`,
  `Scene.Custody.capture`: custody is kept up by what callers do.
* `Scene.Custody.step`: custody is kept up by every step.
* `Scene.Custody.reached`: what is said in a run only grows, and what is gone was deleted.
-/

namespace ShaderBundle

theorem Outcome.programs_error (failure : Failure) :
    Outcome.programs (.error failure) = [] := rfl

theorem Section.IsPlain.brought {step : Section} (h : step.IsPlain) : step.brought = [] := by
  cases step with
  | settle | replace | sweep => exact h.elim
  | _ => rfl

theorem Section.IsPlain.allows {step : Section} (h : step.IsPlain) (traffic : Traffic) :
    traffic.Allows step := by
  cases step with
  | settle | replace | sweep => exact h.elim
  | _ => trivial

theorem Section.IsPlain.ne_sweep {step : Section} (h : step.IsPlain) (isHeld : ProgramRef → Bool) :
    step ≠ .sweep isHeld := by
  rintro rfl
  exact h

theorem Request.brought_conclusion (request : Request) (outcome : Outcome) :
    (request.conclusion outcome).brought = outcome.programs := by
  cases request <;> rfl

theorem Request.conclusion_ne_sweep (request : Request) (outcome : Outcome)
    (isHeld : ProgramRef → Bool) : request.conclusion outcome ≠ .sweep isHeld := by
  cases request <;> simp [conclusion]

theorem Traffic.allows_conclusion {traffic : Traffic} {request : Request}
    (h : request ∈ traffic.inFlight) (outcome : Outcome) :
    traffic.Allows (request.conclusion outcome) := by
  cases request <;> exact h

/-- What is recorded for a name behind its claim. -/
theorem Traffic.table_conclusion_acquire (traffic : Traffic) (name : Text) (outcome : Outcome) :
    ((traffic.after (.claim name)).after (Request.conclusion (.acquire name) outcome)).table =
      ((traffic.table.claim name).2.settle name outcome).2 := by
  rw [Request.conclusion, table_settle, table_claim]

/-- What is recorded for a name behind its mark. -/
theorem Traffic.table_conclusion_reload (traffic : Traffic) (name : Text) (handle : Handle)
    (outcome : Outcome) :
    ((traffic.after (.mark name)).after (Request.conclusion (.reload name handle) outcome)).table =
      ((traffic.table.mark name).2.replace name handle outcome).2 := by
  rw [← table_mark]
  rfl

theorem Traffic.inFlight_conclusion (traffic : Traffic) (request : Request) (outcome : Outcome) :
    (traffic.after (request.conclusion outcome)).inFlight = traffic.inFlight.erase request := by
  rcases request with name | ⟨name, handle⟩
  · simp only [Request.conclusion, Traffic.after]
    split <;> rfl
  · rfl

namespace Scene

variable {σ : Type} {backend : Backend σ} {validate : Bool} {scene later : Scene σ}

theorem spares_of_destroyed_eq_nil {first : Task} (h : first.destroyed = []) (second : Task) :
    Spares first second := by
  simp [Spares, h]

theorem spares_of_visited_eq_nil (first : Task) {second : Task} (h : second.visited = []) :
    Spares first second := by
  simp [Spares, h]

/-! ### Custody

The graphics thread and its objects have no part in what follows, so only owners are counted, and
jobs are compared with each other. -/

/-- Callers move programs between the table and outcomes. -/
theorem Custody.of_table (h : scene.Custody) (traffic : Traffic)
    (built : List (Request × Outcome))
    (hcount : ∀ ref, traffic.table.held.count ref +
        (built.flatMap fun entry => entry.2.programs).count ref =
      scene.traffic.table.held.count ref +
        (scene.built.flatMap fun entry => entry.2.programs).count ref) :
    ({ scene with traffic, built } : Scene σ).Custody := by
  refine ⟨h.alive, fun ref => ?_, h.borrowed, h.orderly, h.apart⟩
  have howners := h.owners ref
  have hmoved := hcount ref
  rw [count_owned] at howners ⊢
  simp only [tasks] at howners ⊢
  omega

/-- Callers make jobs, and what the jobs own comes from the table. -/
theorem Custody.of_waiting (h : scene.Custody) (traffic : Traffic) (more : List Task)
    (hcount : ∀ ref, traffic.table.held.count ref + (more.flatMap Task.destroyed).count ref =
      scene.traffic.table.held.count ref)
    (hborrowed : ∀ task ∈ more, ∀ ref ∈ task.visited, ref ∈ scene.thread.refs)
    (hapart : ∀ task ∈ more, ∀ other ∈ scene.waiting ++ scene.tasks ++ more,
      Spares task other ∧ Spares other task) :
    ({ scene with traffic, waiting := scene.waiting ++ more } : Scene σ).Custody := by
  refine ⟨h.alive, fun ref => ?_, fun ref href => ?_, h.orderly, fun task htask other hother => ?_⟩
  · have howners := h.owners ref
    have hmoved := hcount ref
    rw [count_owned] at howners ⊢
    simp only [tasks, List.flatMap_append, List.count_append] at howners ⊢
    omega
  -- What is borrowed is there, by an old job as before and by a new one as assumed.
  · obtain ⟨task, htask, hvisited⟩ := mem_borrowed.mp href
    rcases htask with hwaiting | htask
    · rcases List.mem_append.mp hwaiting with hold | hnew
      · exact h.borrowed ref (mem_borrowed.mpr ⟨task, .inl hold, hvisited⟩)
      · exact hborrowed task hnew ref hvisited
    · exact h.borrowed ref (mem_borrowed.mpr ⟨task, .inr htask, hvisited⟩)
  -- Old jobs keep apart from one another, and the new ones from all, in either order.
  · have hother' : other ∈ scene.waiting ++ scene.tasks ∨ other ∈ more := by
      simp only [List.mem_append, tasks] at hother ⊢
      tauto
    rcases List.mem_append.mp htask with hold | hnew
    · rcases hother' with hother' | hother'
      · exact h.apart task hold other hother'
      · exact (hapart other hother' task
          (List.mem_append_left _ (List.mem_append_left _ hold))).symm
    · rcases hother' with hother' | hother'
      · exact hapart task hnew other (List.mem_append_left _ hother')
      · exact hapart task hnew other (List.mem_append_right _ hother')

/-- Some of the jobs that wait are handed in, or given up if they own nothing. -/
theorem Custody.of_fewer (h : scene.Custody) {before after handed : List Task} {task : Task}
    (hwaiting : scene.waiting = before ++ task :: after)
    (hhanded : handed = [task] ∨ handed = [] ∧ task.destroyed = []) :
    ({ scene with waiting := before ++ after, queue := scene.queue ++ handed } :
      Scene σ).Custody := by
  have hmem : task ∈ scene.waiting := by simp [hwaiting]
  -- At most the job in question is handed in, and it joins the queue at its end.
  have hsub : ∀ other ∈ handed, other = task := by
    rintro other hother
    rcases hhanded with rfl | ⟨rfl, -⟩
    · exact List.mem_singleton.mp hother
    · simp at hother
  have hdestroyed : handed.flatMap Task.destroyed = task.destroyed := by
    rcases hhanded with rfl | ⟨rfl, hnone⟩
    · simp
    · simp [hnone]
  have hold : ∀ other, other ∈ before ++ after → other ∈ scene.waiting := by
    intro other hother
    rw [hwaiting]
    simp only [List.mem_append, List.mem_cons] at hother ⊢
    tauto
  have htasks : ({ scene with waiting := before ++ after, queue := scene.queue ++ handed } :
      Scene σ).tasks = scene.tasks ++ handed := by simp [tasks]
  -- So every job that is left, waiting or not, was there before.
  have hall : ∀ other, other ∈ (before ++ after) ++ (scene.tasks ++ handed) →
      other ∈ scene.waiting ++ scene.tasks := by
    intro other hother
    rcases List.mem_append.mp hother with hwait | htask
    · exact List.mem_append_left _ (hold other hwait)
    · rcases List.mem_append.mp htask with htask | hnew
      · exact List.mem_append_right _ htask
      · exact List.mem_append_left _ (hsub other hnew ▸ hmem)
  refine ⟨h.alive, fun ref => ?_, fun ref href => h.borrowed ref ?_, ?_,
    fun other hother another hanother => ?_⟩
  · have howners := h.owners ref
    rw [count_owned, hwaiting] at howners
    rw [count_owned, htasks]
    simp only [List.flatMap_append, List.flatMap_cons, List.count_append, hdestroyed]
      at howners ⊢
    omega
  · obtain ⟨other, hother, hvisited⟩ := mem_borrowed.mp href
    rw [htasks, ← List.mem_append] at hother
    exact mem_borrowed.mpr ⟨other, List.mem_append.mp (hall other hother), hvisited⟩
  · rw [htasks]
    -- It kept apart from all jobs that are in front of it now.
    refine List.pairwise_append.mpr ⟨h.orderly, ?_, fun first hfirst second hsecond => ?_⟩
    · rcases hhanded with rfl | ⟨rfl, -⟩
      · exact List.pairwise_singleton _ _
      · exact List.Pairwise.nil
    · rw [hsub second hsecond]
      exact (h.apart task hmem first (List.mem_append_right _ hfirst)).2
  · rw [htasks] at hanother
    exact h.apart other (hold other hother) another (hall another hanother)

/-! ### Requests in flight -/

/-- The table and the requests that are built for stay as they are. -/
theorem Regular.of_requests (h : scene.Regular) (htraffic : later.traffic = scene.traffic)
    (hrequests : ∀ request, later.requests.count request = scene.requests.count request) :
    later.Regular where
  owned := htraffic ▸ h.owned
  keyed := htraffic ▸ h.keyed
  requests request := by rw [hrequests, htraffic, h.requests]

/-- What the graphics thread does is not seen in the table, and the requests that it has built for
still wait for their outcome to be recorded. -/
theorem Regular.turn (h : scene.Regular) (hturn : Turn backend validate scene later) :
    later.Regular := by
  -- The running job may change, and an outcome may come, as long as the requests of both together
  -- stay.
  have hrunning : ∀ {task : Task} (running : Option Task) {built : List (Request × Outcome)},
      scene.running = some task →
      (∀ request, (running.toList.flatMap Task.requests).count request +
          (built.map Prod.fst).count request =
        ([task].flatMap Task.requests).count request +
          (scene.built.map Prod.fst).count request) →
      ∀ (thread : Thread (List Event × σ)) (lost : List ProgramRef),
        ({ scene with thread, running, built, lost } : Scene σ).Regular := by
    intro task running built hrun hcount thread lost
    refine h.of_requests rfl fun request => ?_
    have hsame := hcount request
    rw [count_requests, count_requests, tasks_of_running hrun, ← List.singleton_append]
    simp only [tasks, List.flatMap_append, List.count_append]
    omega
  cases hturn with
  | start hidle hqueue =>
    exact h.of_requests rfl fun request => by simp [Scene.requests, tasks, hidle, hqueue]
  | build hrun =>
    exact hrunning none hrun (fun request => by
      simp [Task.requests, List.count_append, Nat.add_comm]) _ _
  | visit hrun => exact h.of_requests rfl fun _ => rfl
  | unuse hrun => exact h.of_requests rfl fun _ => rfl
  | leave hrun => exact hrunning none hrun (fun _ => by simp [Task.requests]) _ _
  | @destroy ref rest hrun =>
    -- A job that destroys has no request, so it may end as it likes.
    have hdestroy : ∀ running, running = some (.destroy rest) ∨ running = none →
        ∀ request, (running.toList.flatMap Task.requests).count request +
          (scene.built.map Prod.fst).count request =
        ([Task.destroy (ref :: rest)].flatMap Task.requests).count request +
          (scene.built.map Prod.fst).count request := by
      rintro running (rfl | rfl) request <;> simp [Task.requests]
    rw [destroyed]
    split
    · split
      · exact hrunning _ hrun (hdestroy _ (.inl rfl)) _ _
      · exact hrunning _ hrun (hdestroy _ (.inr rfl)) _ _
    · exact hrunning _ hrun (hdestroy _ (.inl rfl)) _ _
  | done hrun => exact hrunning none hrun (fun _ => by simp [Task.requests]) _ _

/-- A request whose outcome is there is in flight. -/
theorem Regular.mem_inFlight (h : scene.Regular) {request : Request} {outcome : Outcome}
    (hbuilt : (request, outcome) ∈ scene.built) : request ∈ scene.traffic.inFlight := by
  have hmem : request ∈ scene.requests :=
    List.mem_append_right _ (List.mem_map_of_mem (f := Prod.fst) hbuilt)
  have hcount := h.requests request
  have hpos := List.count_pos_iff.mpr hmem
  exact List.count_pos_iff.mp (by omega)

/-! ### Callers

For each thing that a caller does there is one lemma about owners and one about requests. -/

/-- What is in the table is not in the hands of a job that destroys. -/
theorem Custody.notMem_destroyed (h : scene.Custody) {ref : ProgramRef}
    (href : ref ∈ scene.traffic.table.held) {task : Task}
    (htask : task ∈ scene.waiting ++ scene.tasks) : ref ∉ task.destroyed := by
  intro hmem
  have hle := h.count_owned_le ref
  have hheld := List.count_pos_iff.mpr href
  have hdestroyed := List.count_pos_iff.mpr (List.mem_flatMap.mpr ⟨task, htask, hmem⟩)
  rw [owned, List.count_append, List.count_append] at hle
  omega

/-- A section that a caller goes through keeps custody. -/
theorem Custody.enter (h : scene.Custody) (hregular : scene.Regular) {step : Section}
    (hplain : step.IsPlain) :
    ({ scene with traffic := scene.traffic.after step } : Scene σ).Custody := by
  obtain ⟨-, hcount⟩ := Traffic.holds_after hregular.owned hregular.keyed (hplain.allows _)
    hplain.ne_sweep
  rw [hplain.brought] at hcount
  exact h.of_table _ scene.built fun ref => by rw [hcount ref, List.count_nil, Nat.add_zero]

theorem Regular.enter (h : scene.Regular) {step : Section} (hplain : step.IsPlain)
    (hrequests : ∀ request, later.requests.count request =
      (scene.traffic.after step).inFlight.count request)
    (htraffic : later.traffic = scene.traffic.after step) : later.Regular where
  owned := htraffic ▸ h.owned.after step (hplain.allows _)
  keyed := htraffic ▸ (Traffic.holds_after h.owned h.keyed (hplain.allows _) hplain.ne_sweep).keyed
  requests request := by rw [hrequests, htraffic]

/-- A request begins, and it is built for or it has failed already. -/
theorem Custody.begun (h : scene.Custody) (hregular : scene.Regular) {step : Section}
    (hplain : step.IsPlain) (request : Request) (result : Except Failure Registry.Prepared) :
    (scene.begun step request result).Custody := by
  have henter := h.enter hregular hplain
  cases result with
  | ok prepared =>
    -- A job that builds owns nothing and borrows nothing, so it is in nobody's way.
    refine henter.of_waiting (scene.traffic.after step) [.build request prepared]
      (fun ref => by simp [Task.destroyed]) ?_ ?_
    · simp [Task.visited]
    · rintro task htask other -
      obtain rfl := List.mem_singleton.mp htask
      exact ⟨spares_of_destroyed_eq_nil rfl _, spares_of_visited_eq_nil _ rfl⟩
  | error failure =>
    exact henter.of_table (scene.traffic.after step) (scene.built ++ [(request, .error failure)])
      fun ref => by simp [Outcome.programs_error]

theorem Regular.begun (h : scene.Regular) {step : Section} (hplain : step.IsPlain)
    {request : Request}
    (hinFlight : (scene.traffic.after step).inFlight = scene.traffic.inFlight ++ [request])
    (result : Except Failure Registry.Prepared) : (scene.begun step request result).Regular := by
  cases result with
  | ok prepared =>
    refine h.enter hplain (fun other => ?_) rfl
    have hcount := h.requests other
    rw [count_requests] at hcount ⊢
    simp only [Scene.begun, hinFlight, List.flatMap_append, List.count_append, tasks,
      List.flatMap_cons, Task.requests, List.flatMap_nil, List.count_nil] at hcount ⊢
    omega
  | error failure =>
    refine h.enter hplain (fun other => ?_) rfl
    have hcount := h.requests other
    rw [count_requests] at hcount ⊢
    simp only [Scene.begun, hinFlight, List.map_append, List.count_append, tasks,
      List.map_cons, List.map_nil] at hcount ⊢
    omega

/-- The table takes the program of an outcome over. -/
theorem Custody.conclude (h : scene.Custody) (hregular : scene.Regular)
    {before after : List (Request × Outcome)} {request : Request} {outcome : Outcome}
    (hbuilt : scene.built = before ++ (request, outcome) :: after) :
    ({ scene with
      traffic := scene.traffic.after (request.conclusion outcome)
      built := before ++ after } : Scene σ).Custody := by
  have hmem : request ∈ scene.traffic.inFlight :=
    hregular.mem_inFlight (hbuilt ▸ List.mem_append_right _ List.mem_cons_self)
  obtain ⟨-, hcount⟩ := Traffic.holds_after hregular.owned hregular.keyed
    (Traffic.allows_conclusion hmem outcome) (request.conclusion_ne_sweep outcome)
  rw [Request.brought_conclusion] at hcount
  refine h.of_table _ _ fun ref => ?_
  -- The section brings in what the outcome has owned.
  have hheld := hcount ref
  simp only [hbuilt, List.flatMap_append, List.flatMap_cons, List.count_append]
  omega

theorem Regular.conclude (h : scene.Regular) {before after : List (Request × Outcome)}
    {request : Request} {outcome : Outcome}
    (hbuilt : scene.built = before ++ (request, outcome) :: after) :
    ({ scene with
      traffic := scene.traffic.after (request.conclusion outcome)
      built := before ++ after } : Scene σ).Regular := by
  have hmem : request ∈ scene.traffic.inFlight :=
    h.mem_inFlight (hbuilt ▸ List.mem_append_right _ List.mem_cons_self)
  have hallows := Traffic.allows_conclusion hmem outcome
  refine ⟨h.owned.after _ hallows, (Traffic.holds_after h.owned h.keyed hallows
    (request.conclusion_ne_sweep outcome)).keyed, fun other => ?_⟩
  have hcount := h.requests other
  rw [count_requests, hbuilt] at hcount
  rw [count_requests, Traffic.inFlight_conclusion, List.count_erase]
  simp only [tasks, List.map_append, List.map_cons, List.count_append, List.count_cons] at hcount ⊢
  omega

/-- Retired programs with one holder are nobody else's. -/
theorem notMem_visited {ref : ProgramRef}
    (href : ref ∈ scene.traffic.table.held) (hone : scene.holders ref = 1) {task : Task}
    (htask : task ∈ scene.waiting ++ scene.tasks) : ref ∉ task.visited := by
  intro hmem
  have hheld := List.count_pos_iff.mpr href
  have hborrowed := List.count_pos_iff.mpr (List.mem_flatMap.mpr ⟨task, htask, hmem⟩)
  rw [holders, List.count_append, owned, List.count_append, List.count_append,
    Scene.borrowed] at hone
  omega

theorem Custody.swept (h : scene.Custody) : scene.swept.Custody := by
  -- What is swept out has no holder but the table.
  have hidle : ∀ task ∈ (scene.traffic.table.sweep fun ref => decide (scene.holders ref ≠ 1)).1.map
      (fun ref => Task.destroy [ref]), ∃ ref ∈ scene.traffic.table.held,
        scene.holders ref = 1 ∧ task = .destroy [ref] := by
    intro task htask
    obtain ⟨ref, href, rfl⟩ := List.mem_map.mp htask
    obtain ⟨hretired, hone⟩ := List.mem_filter.mp href
    exact ⟨ref, List.mem_append_right _ hretired, by simpa using hone, rfl⟩
  refine h.of_waiting _ _ (fun ref => ?_) (fun task htask ref href => ?_)
    fun task htask other hother => ?_
  · have hdestroyed : ∀ idle : List ProgramRef,
        (idle.map fun ref => Task.destroy [ref]).flatMap Task.destroyed = idle := by
      intro idle
      rw [List.flatMap_map]
      exact List.flatMap_singleton' idle
    rw [hdestroyed]
    exact Slots.count_held_sweep _ _ ref
  · obtain ⟨_, -, -, rfl⟩ := hidle task htask
    simp [Task.visited] at href
  · obtain ⟨ref, hheld, hone, rfl⟩ := hidle task htask
    refine ⟨fun other' hother' hvisited => ?_, spares_of_visited_eq_nil _ rfl⟩
    obtain rfl := List.mem_singleton.mp hother'
    -- So no job that is there visits it, and the new ones visit nothing.
    rcases List.mem_append.mp hother with hold | hnew
    · exact notMem_visited hheld hone hold hvisited
    · obtain ⟨_, -, -, rfl⟩ := hidle other hnew
      simp [Task.visited] at hvisited

theorem Regular.swept (h : scene.Regular) : scene.swept.Regular := by
  have hnone : ∀ idle : List ProgramRef,
      (idle.map fun ref => Task.destroy [ref]).flatMap Task.requests = [] := by
    intro idle
    rw [List.flatMap_map]
    exact List.flatMap_eq_nil_iff.mpr fun _ _ => rfl
  refine ⟨h.owned.after (.sweep _) trivial, h.keyed, fun request => ?_⟩
  have hcount := h.requests request
  rw [count_requests] at hcount ⊢
  simp only [Scene.swept, List.flatMap_append, hnone, List.append_nil, tasks] at hcount ⊢
  exact hcount

/-- Callers borrow programs that are in the table. -/
theorem Custody.capture (h : scene.Custody) {programs : List ProgramRef}
    (hprograms : ∀ ref ∈ programs, ref ∈ scene.traffic.table.programs) :
    ({ scene with waiting := scene.waiting ++ [.visit programs] } : Scene σ).Custody := by
  have hheld : ∀ ref ∈ programs, ref ∈ scene.traffic.table.held :=
    fun ref href => List.mem_append_left _ (hprograms ref href)
  refine h.of_waiting scene.traffic _ (fun ref => by simp [Task.destroyed])
    (fun task htask ref href => ?_) fun task htask other hother => ?_
  · obtain rfl := List.mem_singleton.mp htask
    exact h.mem_refs (List.mem_append_left _ (List.mem_append_left _ (hheld ref href)))
  -- What is borrowed is in the table, and no job destroys what is in there.
  · obtain rfl := List.mem_singleton.mp htask
    refine ⟨spares_of_destroyed_eq_nil rfl _, fun ref hdestroyed hvisited => ?_⟩
    rcases List.mem_append.mp hother with hold | hnew
    · exact h.notMem_destroyed (hheld ref hvisited) hold hdestroyed
    · obtain rfl := List.mem_singleton.mp hnew
      simp [Task.destroyed] at hdestroyed

/-! ### Steps

Steps of either side are put together, and from the empty scene on they are followed to any later
one. What is asked of the backend is that it hands out no number that is in use, in all that is said
up to the end; for earlier scenes this follows, as what was said by then is the beginning of it. -/

/-- **Whatever callers and the graphics thread do, every program object keeps its owner.** -/
theorem Custody.step (h : scene.Custody) (hregular : scene.Regular)
    (hstep : Step backend validate scene later) (hfresh : Ledger.Fresh {} later.thread.log) :
    later.Custody ∧ later.Regular ∧ scene.thread.Onward later.thread := by
  cases hstep with
  | turn hturn =>
    obtain ⟨hcustody, honward⟩ := h.turn hturn hfresh
    exact ⟨hcustody, hregular.turn hturn, honward⟩
  | enter hplain hinFlight =>
    refine ⟨h.enter hregular hplain, hregular.enter hplain (fun request => ?_) rfl,
      Thread.onward_refl _⟩
    rw [hinFlight]
    exact hregular.requests request
  -- A request begins, and it is waiting or has failed.
  | begin hplain hinFlight result =>
    exact ⟨h.begun hregular hplain _ result, hregular.begun hplain hinFlight result,
      by cases result <;> exact Thread.onward_refl _⟩
  | conclude hbuilt =>
    exact ⟨h.conclude hregular hbuilt, hregular.conclude hbuilt, Thread.onward_refl _⟩
  | sweep => exact ⟨h.swept, hregular.swept, Thread.onward_refl _⟩
  | capture hprograms =>
    refine ⟨h.capture hprograms, hregular.of_requests rfl fun request => ?_, Thread.onward_refl _⟩
    simp [requests, tasks, Task.requests]
  | handOver hwaiting =>
    refine ⟨h.of_fewer hwaiting (.inl rfl), hregular.of_requests rfl fun request => ?_,
      Thread.onward_refl _⟩
    rw [count_requests, count_requests, hwaiting]
    simp only [tasks, List.flatMap_append, List.flatMap_cons, List.flatMap_nil, List.count_append,
      List.count_nil]
    omega
  | @drop before after programs hwaiting =>
    refine ⟨?_, hregular.of_requests rfl fun request => ?_, Thread.onward_refl _⟩
    · simpa using h.of_fewer hwaiting (.inr ⟨rfl, rfl⟩)
    · rw [count_requests, count_requests, hwaiting]
      simp [tasks, Task.requests]

theorem custody_new (device : σ) : (Scene.new device).Custody where
  alive := Thread.alive_new device
  owners _ := rfl
  borrowed _ h := nomatch h
  orderly := List.Pairwise.nil
  apart _ h := nomatch h

theorem regular_new (device : σ) : (Scene.new device).Regular where
  owned := Traffic.owned_empty
  keyed := List.nodup_nil
  requests _ := rfl

/-- Steps go on with the conversation, and the programs of objects that are gone were deleted. -/
theorem Custody.reached (h : scene.Custody) (hregular : scene.Regular)
    (hreached : Reached backend validate scene later) (hfresh : Ledger.Fresh {} later.thread.log) :
    later.Custody ∧ later.Regular ∧ scene.thread.Onward later.thread := by
  induction hreached with
  | refl => exact ⟨h, hregular, Thread.onward_refl _⟩
  | step _ hstep ih =>
    obtain ⟨hcustody, hregular, honward⟩ := ih (fresh_of_log hstep.log hfresh)
    obtain ⟨hcustody', hregular', honward'⟩ := hcustody.step hregular hstep hfresh
    exact ⟨hcustody', hregular', honward.trans honward' h.alive⟩

end Scene

end ShaderBundle
