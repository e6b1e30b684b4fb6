import ShaderBundle.Graphics.Build
import ShaderBundle.Proofs.Graphics.Recording

/-!
# The courses of a build

What a build says to the backend, call by call, for every way in which the backend may reply.

## Courses as data

A build has few courses, and they are listed as constructors. A source is accepted or refused; if it
is refused, the stages compiled so far are deleted and that is all. A program is made or not; it is
linked or not; if it is linked, the stages go and advice may be asked for. Everything else that
these modules say about builds is said by cases over the constructors: what is deleted, in which
order, whether a call names something that is gone, what is left. The definition of a build is not
unfolded again.

The order of events is part of a course. A build that fails to link detaches all stages before it
deletes any, and deletes the program last; a build that links detaches and deletes them one by one.
The two differ in the definition, and so they differ here (`detachments` with `deletions`, and
`partings`).

## What is not in a course

Numbers are parameters of a course, any numbers the backend hands out. Diagnostics are, too: a
refused block has some diagnostics, and how they come from the log is known elsewhere. Sources do
not occur at all.

## Main definitions

* `Build.CompileCourse`, `Build.LinkCourse` and `Build.Course` are the courses of compiling blocks,
  of linking stages and of a whole build.

## Main results

* `Build.build_records`: a build takes one of its courses, or stops on one if something crashes.
-/

namespace ShaderBundle.Build

variable {σ : Type} {backend : Backend σ}

/-! ### Courses -/

/-- Stages are deleted, in order. -/
def deletions (compiled : List Compiled) : List Event :=
  compiled.map fun c => .call (.deleteStage c.id)

/-- Stages are attached to a program, in order. -/
def attachments (program : ProgramId) (compiled : List Compiled) : List Event :=
  compiled.map fun c => .call (.attach program c.id)

/-- Stages are detached from a program, in order. -/
def detachments (program : ProgramId) (compiled : List Compiled) : List Event :=
  compiled.map fun c => .call (.detach program c.id)

/-- Stages are detached and deleted, one after the other. -/
def partings (program : ProgramId) (compiled : List Compiled) : List Event :=
  compiled.flatMap fun c => [.call (.detach program c.id), .call (.deleteStage c.id)]

/-- The courses of compiling one block. -/
inductive BlockCourse (block : Block) : Except BuildError Compiled → List Event → Prop where
  | accepted (id : StageId) :
    BlockCourse block (.ok ⟨block.stage, id⟩) (exchange (.compile block.stage) [.stage id])
  | refused (log : Text) (diagnostics : List Diagnostic) :
    BlockCourse block (.error (.compile block.stage diagnostics))
      (exchange (.compile block.stage) [.refused log])

/-- The courses of compiling blocks behind the stages compiled so far. -/
inductive CompileCourse : List Compiled → List Block → Except BuildError (List Compiled) →
    List Event → Prop where
  | done (compiled : List Compiled) : CompileCourse compiled [] (.ok compiled) []
  | accepted {compiled : List Compiled} {block : Block} {rest : List Block} (id : StageId)
    {answer : Except BuildError (List Compiled)} {events : List Event}
    (h : CompileCourse (compiled ++ [⟨block.stage, id⟩]) rest answer events) :
    CompileCourse compiled (block :: rest) answer
      (exchange (.compile block.stage) [.stage id] ++ events)
  | refused (compiled : List Compiled) (block : Block) (rest : List Block) (log : Text)
    (diagnostics : List Diagnostic) :
    CompileCourse compiled (block :: rest) (.error (.compile block.stage diagnostics))
      (exchange (.compile block.stage) [.refused log] ++ deletions compiled)

/-- The conversation over advice on a program. -/
inductive AdviceCourse (program : ProgramId) : Bool → List Event → Prop where
  | unasked : AdviceCourse program false []
  | asked (answer : Except Text Unit) : AdviceCourse program true
      (exchange (.validate program) [.of (fun _ => .accepted) answer])

/-- The courses of linking compiled stages. -/
inductive LinkCourse (compiled : List Compiled) (validate : Bool) :
    Except BuildError Program → List Event → Prop where
  | uncreated (log : Text) : LinkCourse compiled validate (.error (.link log))
      (exchange .createProgram [.refused log] ++ deletions compiled)
  | unlinked (program : ProgramId) (log : Text) : LinkCourse compiled validate (.error (.link log))
      (exchange .createProgram [.program program] ++ (attachments program compiled ++
        (exchange (.link program) [.refused log] ++ (detachments program compiled ++
          (deletions compiled ++ exchange (.deleteProgram program) [])))))
  | linked (program : ProgramId) {advice : List Event}
    (hadvice : AdviceCourse program validate advice) :
    LinkCourse compiled validate
      (.ok { id := program, stages := compiled.map Compiled.stage })
      (exchange .createProgram [.program program] ++ (attachments program compiled ++
        (exchange (.link program) [.accepted] ++ (partings program compiled ++ advice))))

/-- The courses of building blocks. -/
inductive Course (blocks : List Block) (validate : Bool) :
    Except BuildError Program → List Event → Prop where
  | refused {error : BuildError} {events : List Event}
    (h : CompileCourse [] blocks (.error error) events) :
    Course blocks validate (.error error) events
  | compiled {compiled : List Compiled} {answer : Except BuildError Program}
    {first second : List Event} (h : CompileCourse [] blocks (.ok compiled) first)
    (hlink : LinkCourse compiled validate answer second) :
    Course blocks validate answer (first ++ second)

/-! ### What the parts of a build say

Each part of the definition has a lemma that says which courses it takes. A part that calls another
one uses the lemma about that one, and the names correspond. The relation that is given to `bind`
says what has been said so far together with what is still to come, so that the last step is to read
off a constructor. -/

theorem release_records (compiled : List Compiled) :
    Job.Records backend (fun _ events => events = deletions compiled) (release backend compiled)
      (release backend.recording compiled) := by
  rw [release_eq_forM, release_eq_forM, deletions, List.map_eq_flatMap]
  exact Job.records_forM (fun c => Job.records_operation (.deleteStage c.id)) compiled

theorem attach_records (program : ProgramId) (compiled : List Compiled) :
    Job.Records backend (fun _ events => events = attachments program compiled)
      (attach backend program compiled) (attach backend.recording program compiled) := by
  rw [attach_eq_forM, attach_eq_forM, attachments, List.map_eq_flatMap]
  exact Job.records_forM (fun c => Job.records_operation (.attach program c.id)) compiled

theorem detach_records (program : ProgramId) (compiled : List Compiled) :
    Job.Records backend (fun _ events => events = detachments program compiled)
      (detach backend program compiled) (detach backend.recording program compiled) := by
  rw [detach_eq_forM, detach_eq_forM, detachments, List.map_eq_flatMap]
  exact Job.records_forM (fun c => Job.records_operation (.detach program c.id)) compiled

theorem consume_records (program : ProgramId) (compiled : List Compiled) :
    Job.Records backend (fun _ events => events = partings program compiled)
      (consume backend program compiled) (consume backend.recording program compiled) := by
  rw [consume_eq_forM, consume_eq_forM, partings]
  refine Job.records_forM (fun c => ?_) compiled
  refine (Job.Records.after_operation (.detach program c.id)
    (Job.records_operation (.deleteStage c.id))).mono fun _ events hevents => ?_
  obtain ⟨_, rfl, rfl⟩ := hevents
  rfl

theorem advise_records (program : ProgramId) (validate : Bool) :
    Job.Records backend (fun _ events => AdviceCourse program validate events)
      (advise backend program validate) (advise backend.recording program validate) := by
  cases validate with
  | false =>
    refine (Job.records_pure ()).mono fun _ events hevents => ?_
    rw [hevents.2]
    exact .unasked
  | true =>
    refine ((Job.records_operation (.validate program)).bind fun _ =>
      Job.records_pure ()).mono fun _ events hevents => ?_
    obtain ⟨answer, first, second, rfl, ⟨-, rfl⟩, rfl⟩ := hevents
    rw [List.append_nil]
    exact .asked answer

theorem diagnose_records (block : Block) (log : Text) :
    Job.Records backend (fun _ events => events = []) (diagnose block log)
      (diagnose block log) := by
  rw [diagnose, diagnose]
  split
  · exact Job.records_crash ⟨[], [], rfl, by simp [Quiet]⟩
  · exact (Job.records_pure _).mono fun _ _ h => h.2
  · exact (Job.records_pure _).mono fun _ _ h => h.2

/-- What comes of a block by the answer to its source. -/
def Answered (block : Block) : Except Text StageId → Except BuildError Compiled → Prop
  | .ok id, result => result = .ok ⟨block.stage, id⟩
  | .error _, result => ∃ diagnostics, result = .error (.compile block.stage diagnostics)

theorem compileBlock_records (block : Block) :
    Job.Records backend (BlockCourse block) (compileBlock backend block)
      (compileBlock backend.recording block) := by
  refine ((Job.records_operation (.compile block.stage block.source)).bind
    (S := fun answer b events => events = [] ∧ Answered block answer b)
    fun answer => ?_).mono fun b events hevents => ?_
  · cases answer with
    | ok id => exact (Job.records_pure _).mono fun _ _ h => ⟨h.2, h.1⟩
    -- A refused source: the log is read, which says nothing to the backend.
    | error log =>
      refine ((diagnose_records block log).bind fun _ => Job.records_pure _).mono
        fun b events h => ?_
      obtain ⟨diagnostics, _, _, rfl, ⟨rfl, rfl⟩, rfl⟩ := h
      exact ⟨rfl, diagnostics, rfl⟩
  · obtain ⟨answer, _, _, rfl, ⟨rfl, hanswer⟩, rfl⟩ := hevents
    rw [List.append_nil]
    cases answer with
    | ok id =>
      obtain rfl : b = .ok ⟨block.stage, id⟩ := hanswer
      exact .accepted id
    | error log =>
      obtain ⟨diagnostics, rfl⟩ := hanswer
      exact .refused log diagnostics

/-- The courses of compiling what is behind a block, by what came of the block. -/
def RestCourse (compiled : List Compiled) (rest : List Block) : Except BuildError Compiled →
    Except BuildError (List Compiled) → List Event → Prop
  | .ok c, answer, events => CompileCourse (compiled ++ [c]) rest answer events
  | .error error, answer, events => answer = .error error ∧ events = deletions compiled

theorem compileBlocks_records (compiled : List Compiled) (blocks : List Block) :
    Job.Records backend (CompileCourse compiled blocks) (compileBlocks backend compiled blocks)
      (compileBlocks backend.recording compiled blocks) := by
  induction blocks generalizing compiled with
  | nil =>
    refine (Job.records_pure _).mono fun answer events hevents => ?_
    obtain ⟨rfl, rfl⟩ := hevents
    exact .done compiled
  | cons block rest ih =>
    refine ((compileBlock_records block).bind (S := RestCourse compiled rest)
      fun answer => ?_).mono fun b events hevents => ?_
    · cases answer with
      | ok c => exact ih (compiled ++ [c])
      | error error =>
        refine ((release_records compiled).bind fun _ => Job.records_pure _).mono
          fun b events h => ?_
        obtain ⟨_, _, _, rfl, ⟨rfl, rfl⟩, rfl⟩ := h
        exact ⟨rfl, List.append_nil _⟩
    · obtain ⟨answer, first, second, hfirst, hsecond, rfl⟩ := hevents
      cases hfirst with
      | accepted id => exact .accepted id hsecond
      | refused log diagnostics =>
        obtain ⟨rfl, rfl⟩ := hsecond
        exact .refused compiled block rest log diagnostics

theorem link_records (compiled : List Compiled) (validate : Bool) :
    Job.Records backend (LinkCourse compiled validate) (link backend compiled validate)
      (link backend.recording compiled validate) := by
  refine ((Job.records_operation .createProgram).bind
    (S := fun answer b events =>
      LinkCourse compiled validate b (exchange .createProgram [.of .program answer] ++ events))
    fun created => ?_).mono fun b events hevents => ?_
  · cases created with
    -- There is no program, so the stages are deleted and that is all.
    | error log =>
      refine ((release_records compiled).bind fun _ => Job.records_pure _).mono fun b events h => ?_
      obtain ⟨_, _, _, rfl, ⟨rfl, rfl⟩, rfl⟩ := h
      rw [List.append_nil]
      exact .uncreated log
    -- There is one. The stages are attached, and it is linked or not.
    | ok program =>
      refine ((attach_records program compiled).bind fun _ =>
        (Job.records_operation (.link program)).bind
          (S := fun answer b events => LinkCourse compiled validate b
            (exchange .createProgram [.program program] ++ (attachments program compiled ++
              (exchange (.link program) [.of (fun _ => .accepted) answer] ++ events))))
          fun linked => ?_).mono fun b events hevents => ?_
      · cases linked with
        | error log =>
          refine ((detach_records program compiled).bind fun _ =>
            (release_records compiled).bind fun _ => (Job.records_operation
              (.deleteProgram program)).bind fun _ => Job.records_pure _).mono fun b events h => ?_
          obtain ⟨_, _, _, rfl, ⟨_, _, _, rfl, ⟨_, _, _, rfl, ⟨rfl, rfl⟩, rfl⟩, rfl⟩, rfl⟩ := h
          rw [List.append_nil]
          exact .unlinked program log
        | ok _ =>
          refine ((consume_records program compiled).bind fun _ =>
            (advise_records program validate).bind fun _ =>
              Job.records_pure _).mono fun b events h => ?_
          obtain ⟨_, _, _, rfl, ⟨_, _, _, hadvice, ⟨rfl, rfl⟩, rfl⟩, rfl⟩ := h
          rw [List.append_nil]
          exact .linked program hadvice
      · obtain ⟨_, _, _, rfl, ⟨_, _, _, rfl, h, rfl⟩, rfl⟩ := hevents
        exact h
  · obtain ⟨_, _, _, rfl, h, rfl⟩ := hevents
    exact h

/-- **A build takes one of its courses.** -/
theorem build_records (bundle : Bundle) (validate : Bool) :
    Job.Records backend (Course bundle.blocks validate) (build backend bundle validate)
      (build backend.recording bundle validate) := by
  refine ((compileBlocks_records [] bundle.blocks).bind
    (S := fun answer b events => match answer with
      | .ok compiled => LinkCourse compiled validate b events
      | .error error => b = .error error ∧ events = [])
    fun answer => ?_).mono fun b events hevents => ?_
  · cases answer with
    | ok compiled => exact link_records compiled validate
    | error error => exact Job.records_pure _
  · obtain ⟨answer, first, second, hfirst, hsecond, rfl⟩ := hevents
    cases answer with
    | ok compiled => exact .compiled hfirst hsecond
    | error error =>
      obtain ⟨rfl, rfl⟩ := hsecond
      rw [List.append_nil]
      exact .refused hfirst

end ShaderBundle.Build
