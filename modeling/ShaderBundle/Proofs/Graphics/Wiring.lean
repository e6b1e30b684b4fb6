import ShaderBundle.Proofs.Graphics.Courses

/-!
# What a build attaches, and the programs that it makes

Of everything that is said in a build, this module is about four kinds of events: a stage is
attached to a program or detached from it, a program is made, and a program is deleted. Along every
course of a build these are few and in a fixed order: nothing at all if no program is made;
otherwise the program, its attachments and its detachments, and its deletion if it was not linked.

## Why not the ledger

A ledger says what there is in the end, and a stage that was attached and detached twice leaves no
trace in it. For the claim that everything attached is detached one has to count, and for counting
it is best to have just the events that count. `wiring` picks them out. It is a filter, so it
commutes with concatenation, and the courses of a build become three short lists.

The programs are looked at in the same way, with equality instead of counting: there is at most one,
and it is the answer or it is deleted.

## Main definitions

* `OnlyBuilds`: nothing is made current, written or asked about in a conversation.
* `wiring` picks the four kinds of events out of a conversation.
* `Unwires`: what is attached is detached. `Retains`: a program is kept exactly if it is the answer.
* `Build.WiringCourse`: the ways in which these events come in a build.

## Main results

* `Build.Course.onlyBuilds`, `Build.Course.wiringCourse`: what every course of a build is like.
* `Build.WiringCourse.unwires`, `Build.WiringCourse.retains`: what follows.
-/

namespace ShaderBundle

/-! ### What a build says to its backend

Over a driver the program in use matters to how a program is deleted. A build does not change which
one that is, as long as its own program is never made current. -/

/-- What is said when something is built: nothing is made current, written or asked about. -/
def Event.Builds : Event → Prop
  | .call (.uniformLocation _ _) | .call (.attributeLocation _ _) | .call (.activeUniforms _)
  | .call (.use _) | .call (.setUniform _ _ _) => False
  | _ => True

/-- Nothing but building goes on in the conversation. -/
def OnlyBuilds (events : List Event) : Prop :=
  ∀ event ∈ events, event.Builds

theorem onlyBuilds_append {first second : List Event} :
    OnlyBuilds (first ++ second) ↔ OnlyBuilds first ∧ OnlyBuilds second :=
  List.forall_mem_append

/-- While nothing but building goes on, no other program is made current. -/
theorem OnlyBuilds.current_eq {events : List Event} (h : OnlyBuilds events) {ledger : Ledger}
    {id : ProgramId} (hcurrent : (ledger.run events).current = some id) :
    ledger.current = some id := by
  induction events generalizing ledger with
  | nil => exact hcurrent
  | cons event rest ih =>
    obtain ⟨hbuilds, htail⟩ := List.forall_mem_cons.mp h
    have hrest := ih htail hcurrent
    rcases event with (_ | _ | _ | _ | _ | _ | _ | _ | _ | _ | _ | _ | _) | (_ | _ | _ | _)
    case call.deleteProgram =>
      simp only [Ledger.after] at hrest
      split at hrest
      · cases hrest
      · exact hrest
    case call.use => exact hbuilds.elim
    all_goals exact hrest

namespace Build

variable {compiled : List Compiled} {blocks : List Block} {validate : Bool} {events : List Event}

theorem CompileCourse.onlyBuilds {answer : Except BuildError (List Compiled)}
    (h : CompileCourse compiled blocks answer events) : OnlyBuilds events := by
  induction h with
  | done => simp [OnlyBuilds]
  | accepted id _ ih =>
    exact onlyBuilds_append.mpr ⟨by simp [OnlyBuilds, exchange, Event.Builds], ih⟩
  | refused => simp [OnlyBuilds, exchange, deletions, Event.Builds]

theorem LinkCourse.onlyBuilds {answer : Except BuildError Program}
    (h : LinkCourse compiled validate answer events) : OnlyBuilds events := by
  cases h with
  | uncreated => simp [OnlyBuilds, exchange, deletions, Event.Builds]
  | unlinked =>
    simp [OnlyBuilds, exchange, attachments, detachments, deletions, Event.Builds, or_imp,
      forall_and]
  | @linked program advice hadvice =>
    have hadvised : OnlyBuilds advice := by
      cases hadvice <;> simp [OnlyBuilds, exchange, Event.Builds]
    have hparted : OnlyBuilds (partings program compiled) := by
      intro event hevent
      obtain ⟨c, -, hparting⟩ := List.mem_flatMap.mp hevent
      simp only [List.mem_cons, List.not_mem_nil, or_false] at hparting
      rcases hparting with rfl | rfl <;> trivial
    simp only [onlyBuilds_append]
    refine ⟨?_, ?_, ?_, hparted, hadvised⟩
    all_goals simp [OnlyBuilds, exchange, attachments, Event.Builds]

theorem Course.onlyBuilds {answer : Except BuildError Program}
    (h : Course blocks validate answer events) : OnlyBuilds events := by
  cases h with
  | refused h => exact h.onlyBuilds
  | compiled h hlink => exact onlyBuilds_append.mpr ⟨h.onlyBuilds, hlink.onlyBuilds⟩

/-! ### What a build attaches, and the programs that it makes -/

end Build

/-- The event is about what is attached, or about a program that comes or goes. -/
def Event.IsWiring : Event → Bool
  | .call (.attach _ _) | .call (.detach _ _) | .call (.deleteProgram _) | .reply (.program _) =>
    true
  | _ => false

/-- What is said about what is attached and about programs that come and go. -/
def wiring (events : List Event) : List Event :=
  events.filter Event.IsWiring

theorem wiring_append (first second : List Event) :
    wiring (first ++ second) = wiring first ++ wiring second :=
  List.filter_append ..

theorem count_wiring (event : Event) (h : event.IsWiring = true) (events : List Event) :
    (wiring events).count event = events.count event :=
  List.count_filter h

/-- What is attached is detached. -/
def Unwires (events : List Event) : Prop :=
  ∀ program stage, events.count (.call (.attach program stage)) =
    events.count (.call (.detach program stage))

/-- The programs that are made are deleted, unless one of them is the answer. -/
def Retains (answer : Except BuildError Program) (events : List Event) : Prop :=
  ∀ id, match answer with
    | .ok program => events.count (.reply (.program id)) = (if program.id = id then 1 else 0) ∧
        events.count (.call (.deleteProgram id)) = 0
    | .error _ => events.count (.reply (.program id)) = events.count (.call (.deleteProgram id))

theorem unwires_wiring {events : List Event} : Unwires (wiring events) ↔ Unwires events := by
  have hattach := fun program stage =>
    count_wiring (.call (.attach program stage)) rfl events
  have hdetach := fun program stage =>
    count_wiring (.call (.detach program stage)) rfl events
  simp only [Unwires, hattach, hdetach]

theorem retains_wiring {answer : Except BuildError Program} {events : List Event} :
    Retains answer (wiring events) ↔ Retains answer events := by
  have hmade := fun id => count_wiring (.reply (.program id)) rfl events
  have hgone := fun id => count_wiring (.call (.deleteProgram id)) rfl events
  cases answer <;> simp only [Retains, hmade, hgone]

namespace Build

/-- What a build says about what is attached and about programs that come and go. -/
inductive WiringCourse : Except BuildError Program → List Event → Prop where
  | unmade (error : BuildError) : WiringCourse (.error error) []
  | unlinked (error : BuildError) (program : ProgramId) (compiled : List Compiled) :
    WiringCourse (.error error) (.reply (.program program) :: (attachments program compiled ++
      (detachments program compiled ++ [.call (.deleteProgram program)])))
  | linked (program : Program) (compiled : List Compiled) :
    WiringCourse (.ok program) (.reply (.program program.id) ::
      (attachments program.id compiled ++ detachments program.id compiled))

theorem wiring_deletions (compiled : List Compiled) : wiring (deletions compiled) = [] := by
  simp [wiring, deletions, Event.IsWiring]

theorem wiring_attachments (program : ProgramId) (compiled : List Compiled) :
    wiring (attachments program compiled) = attachments program compiled := by
  simp [wiring, attachments, Event.IsWiring]

theorem wiring_detachments (program : ProgramId) (compiled : List Compiled) :
    wiring (detachments program compiled) = detachments program compiled := by
  simp [wiring, detachments, Event.IsWiring]

theorem wiring_partings (program : ProgramId) (compiled : List Compiled) :
    wiring (partings program compiled) = detachments program compiled := by
  induction compiled with
  | nil => rfl
  | cons c rest ih => exact congrArg (List.cons (.call (.detach program c.id))) ih

theorem CompileCourse.wiring_eq {answer : Except BuildError (List Compiled)}
    (h : CompileCourse compiled blocks answer events) : wiring events = [] := by
  induction h with
  | done => rfl
  | accepted id _ ih => exact ih
  | refused compiled => exact wiring_deletions compiled

theorem LinkCourse.wiringCourse {answer : Except BuildError Program}
    (h : LinkCourse compiled validate answer events) : WiringCourse answer (wiring events) := by
  cases h with
  | uncreated log =>
    rw [wiring_append, wiring_deletions]
    exact .unmade _
  | unlinked program log =>
    simp only [wiring_append, wiring_attachments, wiring_detachments, wiring_deletions]
    exact .unlinked _ program compiled
  | @linked program advice hadvice =>
    have hadvised : wiring advice = [] := by cases hadvice with
      | unasked => rfl
      | asked answer => cases answer <;> rfl
    simp only [wiring_append, wiring_attachments, wiring_partings, hadvised, List.append_nil]
    exact .linked { id := program, stages := _ } compiled

theorem Course.wiringCourse {answer : Except BuildError Program}
    (h : Course blocks validate answer events) : WiringCourse answer (wiring events) := by
  cases h with
  | refused h =>
    rw [h.wiring_eq]
    exact .unmade _
  | compiled h hlink =>
    rw [wiring_append, h.wiring_eq]
    exact hlink.wiringCourse

theorem count_attachments (program other : ProgramId) (compiled : List Compiled)
    (stage : StageId) : (attachments program compiled).count (.call (.attach other stage)) =
      (detachments program compiled).count (.call (.detach other stage)) := by
  induction compiled with
  | nil => rfl
  | cons c rest ih =>
    simp only [attachments, detachments, List.map_cons, List.count_cons, beq_iff_eq,
      Event.call.injEq, Call.attach.injEq, Call.detach.injEq] at ih ⊢
    rw [ih]

theorem WiringCourse.unwires {answer : Except BuildError Program}
    (h : WiringCourse answer events) : Unwires events := by
  intro program stage
  have hattach : ∀ (other : ProgramId) (compiled : List Compiled),
      (detachments other compiled).count (.call (.attach program stage)) = 0 := fun _ _ =>
    List.count_eq_zero.mpr (by simp [detachments])
  have hdetach : ∀ (other : ProgramId) (compiled : List Compiled),
      (attachments other compiled).count (.call (.detach program stage)) = 0 := fun _ _ =>
    List.count_eq_zero.mpr (by simp [attachments])
  cases h with
  | unmade => rfl
  | unlinked | linked =>
    simp [List.count_append, count_attachments, hattach, hdetach]

theorem WiringCourse.retains {answer : Except BuildError Program}
    (h : WiringCourse answer events) : Retains answer events := by
  intro id
  have hattached : ∀ (other : ProgramId) (compiled : List Compiled),
      (attachments other compiled).count (.reply (.program id)) = 0 ∧
        (attachments other compiled).count (.call (.deleteProgram id)) = 0 := fun _ _ =>
    ⟨List.count_eq_zero.mpr (by simp [attachments]), List.count_eq_zero.mpr (by simp [attachments])⟩
  have hdetached : ∀ (other : ProgramId) (compiled : List Compiled),
      (detachments other compiled).count (.reply (.program id)) = 0 ∧
        (detachments other compiled).count (.call (.deleteProgram id)) = 0 := fun _ _ =>
    ⟨List.count_eq_zero.mpr (by simp [detachments]), List.count_eq_zero.mpr (by simp [detachments])⟩
  cases h with
  | unmade => rfl
  | unlinked | linked =>
    simp [List.count_cons, List.count_append, hattached, hdetached]

end Build

end ShaderBundle
