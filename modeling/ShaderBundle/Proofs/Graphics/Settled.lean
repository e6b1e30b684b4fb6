import ShaderBundle.Proofs.Bundle.Blocks
import ShaderBundle.Proofs.Graphics.CutCourses
import ShaderBundle.Proofs.Headless.Outcome

/-!
# What every build settles

A build compiles the blocks of a bundle in order and stops at the first refusal. Behind it there is
its program and nothing else, and validation has no part in what it comes to.

## What is claimed of a build that ends

`Settles` collects it. The blocks are compiled in their order, each once, up to the first one that
is refused, and no program is made behind a refusal. The answer names what was refused: a build that
fails was refused exactly one thing, and a link error carries the log of that refusal. Every stage
that was compiled is deleted once. And what there is in the end, starting from nothing, is the
program of the answer, if there is one.

Every backend is admitted that returns and whose numbers are new. What it refuses, and with which
words, is up to it.

## A build that does not end

With a backend that returns there is one reason left for a build not to end, a log with a line
number too large for its word (`Overflows`). The legality of its calls is claimed in that case as
well, since it does not depend on how the build ends.

## Validation

A program is validated after it was linked, on demand. Its outcome is advice: it is not looked at.
That it has no influence is a statement about two builds, over backends that differ in how they
validate and with or without asking for it. Both are compared with the build that does not ask. For
this a build is cut in two, the part that decides and the advice on its program
(`build_eq_advised`).

## Main definitions

* `Build.conversation` is what a build says and hears.
* `Build.Proceeds`: blocks are compiled in order, up to the first refusal.
* `Build.Settles`: what is to be said of a build that ends.

## Main results

* `Build.Course.settles`: it can be said of every course.
* `Build.build_settles`: it can be said of every build whose backend returns and whose logs carry no
  line numbers too large for their word. Validation neither changes the answer nor what is left.
-/

namespace ShaderBundle.Build

variable {σ : Type} {backend : Backend σ} {blocks : List Block} {compiled : List Compiled}
  {validate : Bool} {events : List Event}

/-- What a build says and hears. -/
def conversation (backend : Backend σ) (bundle : Bundle) (validate : Bool) (s : σ) : List Event :=
  ((build backend.recording bundle validate).run ([], s)).2.1

/-! ### The order of calls

What was said is compared with the list of blocks. The acceptances come first, one for each block
in order; the rest of the conversation compiles nothing, so no block comes twice and none out of
order. -/

/-- Blocks are compiled, in order, and all of them accepted. -/
def acceptances (blocks : List Block) (ids : List StageId) : List Event :=
  (List.zipWith (fun block id => exchange (.compile block.stage) [.stage id]) blocks ids).flatten

/-- Nothing is compiled. -/
def CompilesNothing (events : List Event) : Prop :=
  ∀ stage, .call (.compile stage) ∉ events

/-- Blocks are compiled in order. Behind the first refusal no more is compiled, and no program is
made. -/
inductive Proceeds (blocks : List Block) : Except BuildError Program → List Event → Prop where
  | compiled {ids : List StageId} (hids : ids.length = blocks.length) {rest : List Event}
    (hrest : CompilesNothing rest) (answer : Except BuildError Program) :
    Proceeds blocks answer (acceptances blocks ids ++ rest)
  | refused {accepted remaining : List Block} {block : Block}
    (hblocks : blocks = accepted ++ block :: remaining) {ids : List StageId}
    (hids : ids.length = accepted.length) {rest : List Event} (hrest : CompilesNothing rest)
    (hcreate : .call .createProgram ∉ rest) (log : Text) (diagnostics : List Diagnostic) :
    Proceeds blocks (.error (.compile block.stage diagnostics))
      (acceptances accepted ids ++ (exchange (.compile block.stage) [.refused log] ++ rest))

theorem mem_deletions {event : Event} (h : event ∈ deletions compiled) :
    ∃ c ∈ compiled, event = .call (.deleteStage c.id) := by
  obtain ⟨c, hc, rfl⟩ := List.mem_map.mp h
  exact ⟨c, hc, rfl⟩

theorem CompileCourse.eq_acceptances {answer : Except BuildError (List Compiled)}
    (h : CompileCourse compiled blocks answer events) : match answer with
      | .ok all => ∃ ids, ids.length = blocks.length ∧ events = acceptances blocks ids ∧
        all.map Compiled.stage = compiled.map Compiled.stage ++ blocks.map Block.stage
      | .error error => ∃ accepted block remaining ids log diagnostics all,
        blocks = accepted ++ block :: remaining ∧ ids.length = accepted.length ∧
        error = .compile block.stage diagnostics ∧ events = acceptances accepted ids ++
          (exchange (.compile block.stage) [.refused log] ++ deletions all) := by
  induction h with
  | done compiled => exact ⟨[], rfl, rfl, by simp⟩
  -- One more acceptance in front of what comes of the rest.
  | @accepted compiled block rest id answer events _ ih =>
    cases answer with
    | ok all =>
      obtain ⟨ids, hids, rfl, hall⟩ := ih
      exact ⟨id :: ids, by simp [hids], rfl, by simp [hall]⟩
    | error error =>
      obtain ⟨accepted, refused, remaining, ids, log, diagnostics, all, rfl, hids, rfl, rfl⟩ := ih
      exact ⟨block :: accepted, refused, remaining, id :: ids, log, diagnostics, all, rfl,
        by simp [hids], rfl, by simp [acceptances]⟩
  -- Nothing was accepted behind the stages that there were.
  | refused compiled block rest log diagnostics =>
    exact ⟨[], block, rest, [], log, diagnostics, compiled, rfl, rfl, rfl, rfl⟩

theorem LinkCourse.compilesNothing {answer : Except BuildError Program}
    (h : LinkCourse compiled validate answer events) : CompilesNothing events := by
  intro stage hmem
  cases h with
  | uncreated => simp [exchange, deletions] at hmem
  | unlinked => simp [exchange, deletions, attachments, detachments] at hmem
  | linked _ hadvice => cases hadvice <;> simp [exchange, attachments, partings] at hmem

theorem Course.proceeds {answer : Except BuildError Program}
    (h : Course blocks validate answer events) : Proceeds blocks answer events := by
  cases h with
  | refused h =>
    obtain ⟨accepted, block, remaining, ids, log, diagnostics, all, hblocks, hids, rfl, rfl⟩ :=
      h.eq_acceptances
    exact .refused hblocks hids (fun stage hmem => by simp [deletions] at hmem)
      (by simp [deletions]) log diagnostics
  | compiled h hlink =>
    obtain ⟨ids, hids, rfl, -⟩ := h.eq_acceptances
    exact .compiled hids hlink.compilesNothing _

/-! ### Refusals

`refusals` picks the refused calls out of a conversation, where a refusal follows the call that it
answers. The parts of a course in which nothing is answered have none, which is said for lists of
calls in general (`Unanswered`). -/

/-- The calls that were refused, with the logs. -/
def refusals : List Event → List (Call × Text)
  | .call call :: .reply (.refused log) :: rest => (call, log) :: refusals rest
  | _ :: rest => refusals rest
  | [] => []

/-- What may have been refused: nothing but advice if there is a program, and the one thing that a
build failed at otherwise. A link error carries its log. -/
def Refused : Except BuildError Program → List (Call × Text) → Prop
  | .ok program, refused => refused = [] ∨ ∃ log, refused = [(.validate program.id, log)]
  | .error (.compile stage _), refused => ∃ log, refused = [(.compile stage, log)]
  | .error (.link log), refused =>
    refused = [(.createProgram, log)] ∨ ∃ program, refused = [(.link program, log)]
  | .error (.thread _), _ => False

/-- The conversation has calls only. -/
def Unanswered (events : List Event) : Prop :=
  ∀ event ∈ events, ∃ call, event = .call call

/-- What follows on calls has the refusals, unless it begins with a reply. -/
theorem refusals_calls {rest : List Event} (h : Unanswered events)
    (hrest : ∀ reply, rest.head? ≠ some (.reply reply)) :
    refusals (events ++ rest) = refusals rest := by
  induction events with
  | nil => rfl
  | cons event more ih =>
    obtain ⟨first, rfl⟩ := h event List.mem_cons_self
    have hmore := fun e he => h e (List.mem_cons_of_mem _ he)
    rw [← ih hmore]
    -- what comes next is another call, or the beginning of the rest
    cases more with
    | cons next more =>
      obtain ⟨second, rfl⟩ := hmore next List.mem_cons_self
      rfl
    | nil =>
      rcases rest with _ | ⟨_ | reply, rest⟩
      · rfl
      · rfl
      · exact absurd rfl (hrest reply)

theorem refusals_append (h : Unanswered events) (call : Call) (rest : List Event) :
    refusals (events ++ .call call :: rest) = refusals (.call call :: rest) :=
  refusals_calls h nofun

theorem refusals_eq_nil (h : Unanswered events) : refusals events = [] := by
  have hnone : refusals (events ++ []) = refusals [] := refusals_calls h nofun
  rwa [List.append_nil] at hnone

/-- A refusal that only calls follow. -/
theorem refusals_refused (h : Unanswered events) (call : Call) (log : Text) :
    refusals (exchange call [.refused log] ++ events) = [(call, log)] :=
  congrArg (List.cons (call, log)) (refusals_eq_nil h)

theorem unanswered_deletions : Unanswered (deletions compiled) :=
  fun _ h => (mem_deletions h).elim fun c hc => ⟨.deleteStage c.id, hc.2⟩

theorem unanswered_attachments (program : ProgramId) :
    Unanswered (attachments program compiled) := by
  simp [Unanswered, attachments]

theorem unanswered_partings (program : ProgramId) : Unanswered (partings program compiled) := by
  simp only [Unanswered, partings, List.mem_flatMap, List.mem_cons, List.not_mem_nil, or_false]
  rintro _ ⟨c, -, rfl | rfl⟩
  · exact ⟨_, rfl⟩
  · exact ⟨_, rfl⟩

theorem refusals_acceptances (ids : List StageId) (rest : List Event) :
    refusals (acceptances blocks ids ++ rest) = refusals rest := by
  induction blocks generalizing ids with
  | nil => rfl
  | cons block more ih =>
    cases ids with
    | nil => rfl
    | cons id ids => exact ih ids

theorem LinkCourse.refused_refusals {answer : Except BuildError Program}
    (h : LinkCourse compiled validate answer events) : Refused answer (refusals events) := by
  cases h with
  | uncreated log =>
    exact .inl (refusals_refused unanswered_deletions .createProgram log)
  | unlinked program log =>
    have hdetach : Unanswered (detachments program compiled ++
        (deletions compiled ++ exchange (.deleteProgram program) [])) := by
      simp only [Unanswered, detachments, deletions, exchange, List.mem_append, List.mem_map]
      rintro _ (⟨c, -, rfl⟩ | ⟨c, -, rfl⟩ | h)
      · exact ⟨_, rfl⟩
      · exact ⟨_, rfl⟩
      · exact ⟨_, List.mem_singleton.mp h⟩
    exact .inr ⟨program, (refusals_append (unanswered_attachments program) _ _).trans
      (refusals_refused hdetach (.link program) log)⟩
  | linked program hadvice =>
    have hparting : Unanswered (partings program compiled) := unanswered_partings program
    have hlink : ∀ advice, refusals (exchange .createProgram [.program program] ++
        (attachments program compiled ++ (exchange (.link program) [.accepted] ++
          (partings program compiled ++ advice)))) =
            refusals (partings program compiled ++ advice) :=
      fun advice => refusals_append (unanswered_attachments program) (.link program) _
    rw [hlink]
    cases hadvice with
    | unasked => exact .inl (refusals_eq_nil (by simpa using hparting))
    | asked answer =>
      have hadvice := refusals_append hparting (.validate program)
        [.reply (.of (fun _ => .accepted) answer)]
      cases answer with
      | ok _ => exact .inl hadvice
      | error log => exact .inr ⟨log, hadvice⟩

theorem Course.refused_refusals {answer : Except BuildError Program}
    (h : Course blocks validate answer events) : Refused answer (refusals events) := by
  cases h with
  | refused h =>
    obtain ⟨accepted, block, remaining, ids, log, diagnostics, all, -, -, rfl, rfl⟩ :=
      h.eq_acceptances
    rw [refusals_acceptances]
    exact ⟨log, refusals_refused unanswered_deletions (.compile block.stage) log⟩
  | compiled h hlink =>
    obtain ⟨ids, -, rfl, -⟩ := h.eq_acceptances
    rw [refusals_acceptances]
    exact hlink.refused_refusals

/-! ### Builds that end

Every constructor of `Course` is gone through once for each field of `Settles`; the fields about
objects come from the ledger. -/

/-- What is to be said of a build that ends. -/
structure Settles (bundle : Bundle) (answer : Except BuildError Program) (events : List Event) :
    Prop where
  /-- It goes through the blocks in order. -/
  proceeds : Proceeds bundle.blocks answer events
  /-- It fails at what was refused. -/
  refused : Refused answer (refusals events)
  /-- Every stage that it compiled is deleted once. -/
  deleted : ∀ id, events.count (.call (.deleteStage id)) = events.count (.reply (.stage id))
  /-- Its program is left, if there is one, and nothing else. -/
  left : Ledger.run {} events = behind {} answer
  /-- Its program has the stages of the file. -/
  stages : ∀ program, answer = .ok program → program.stages = bundle.blocks.map Block.stage

theorem Course.stages_eq {answer : Except BuildError Program}
    (h : Course blocks validate answer events)
    {program : Program} (hanswer : answer = .ok program) :
    program.stages = blocks.map Block.stage := by
  cases h with
  | refused => simp at hanswer
  | compiled h hlink =>
    obtain ⟨-, -, -, hall⟩ := h.eq_acceptances
    cases hlink with
    | linked =>
      obtain rfl := Except.ok.inj hanswer
      simpa using hall
    | _ => simp at hanswer

/-- **This can be said of every course.** -/
theorem Course.settles {bundle : Bundle} {answer : Except BuildError Program}
    (h : Course bundle.blocks validate answer events) (hfresh : Ledger.Fresh {} events) :
    Settles bundle answer events where
  proceeds := h.proceeds
  refused := h.refused_refusals
  left := (h.leads Ledger.sound_empty hfresh).1.run_eq
  stages _ hanswer := h.stages_eq hanswer
  deleted id := by
    obtain ⟨hlegal, hrun⟩ := (h.leads Ledger.sound_empty hfresh).1
    have hcount := (Ledger.accounts_stages.run hlegal hfresh List.nodup_nil).2 id
    have hnone : (Ledger.run {} events).stages = [] := by
      rw [hrun]
      cases answer <;> rfl
    rw [hnone] at hcount
    exact hcount.symm

/-! ### Builds that crash -/

theorem mem_refusals_cons {refusal : Call × Text} {event : Event} (h : refusal ∈ refusals events) :
    refusal ∈ refusals (event :: events) := by
  rcases event with call | reply
  · rcases events with _ | ⟨_ | (_ | _ | _ | log), rest⟩
    case cons.reply.refused => exact List.mem_cons_of_mem _ h
    all_goals exact h
  · exact h

theorem mem_refusals_append {refusal : Call × Text} (first : List Event)
    (h : refusal ∈ refusals events) : refusal ∈ refusals (first ++ events) := by
  induction first with
  | nil => exact h
  | cons event rest ih => exact mem_refusals_cons ih

/-- A block was refused with a log that carries a line number too large for its word. -/
def Overflows (blocks : List Block) (events : List Event) : Prop :=
  ∃ block ∈ blocks, ∃ log, (.compile block.stage, log) ∈ refusals events ∧
    Diagnostic.remapBlock? block log = none

theorem CutCourse.overflows {ids : List StageId} (h : CutCourse backend blocks ids events)
    (hreturns : backend.Returns) : Overflows blocks events := by
  induction h with
  | @unanswered block _ hcrash => exact absurd (hreturns (.compile block.stage block.source)) hcrash
  | @overflown block _ log hoverflow =>
    exact ⟨block, List.mem_cons_self, log, List.mem_cons_self, hoverflow⟩
  | accepted id _ ih =>
    obtain ⟨block, hblock, log, hrefusal, hoverflow⟩ := ih
    exact ⟨block, List.mem_cons_of_mem _ hblock, log, mem_refusals_append _ hrefusal, hoverflow⟩

theorem IsCut.overflows (h : IsCut backend blocks events) (hreturns : backend.Returns) :
    Overflows blocks events := by
  obtain ⟨_, hcut⟩ := h
  exact hcut.overflows hreturns

/-- **Over a backend that returns, a build crashes over large line numbers only.** -/
theorem build_crashesOnly (h : backend.Returns) (bundle : Bundle) (validate : Bool) :
    Job.CrashesOnly (Overflows bundle.blocks) (build backend.recording bundle validate) :=
  (build_cut (Backend.Returns.steady h) bundle validate).mono fun _ hcut => hcut.overflows h

/-! ### Validation

A backend with another way to validate is the same backend for everything that happens before. That
is true by definition for single operations, and by induction for the loops. -/

/-- The backend with another way to validate. -/
def withCheck (backend : Backend σ) (check : ProgramId → Job σ (Except Text Unit)) : Backend σ :=
  { backend with validate := check }

variable {check : ProgramId → Job σ (Except Text Unit)}

theorem withCheck_self : withCheck backend backend.validate = backend := rfl

theorem recording_withCheck : (withCheck backend check).recording =
    withCheck backend.recording fun program => (check program).recorded (.validate program)
      fun answer => [.of (fun _ => .accepted) answer] := rfl

theorem release_withCheck (compiled : List Compiled) :
    release (withCheck backend check) compiled = release backend compiled := by
  rw [release_eq_forM, release_eq_forM]
  rfl

theorem attach_withCheck (program : ProgramId) (compiled : List Compiled) :
    attach (withCheck backend check) program compiled = attach backend program compiled := by
  rw [attach_eq_forM, attach_eq_forM]
  rfl

theorem detach_withCheck (program : ProgramId) (compiled : List Compiled) :
    detach (withCheck backend check) program compiled = detach backend program compiled := by
  rw [detach_eq_forM, detach_eq_forM]
  rfl

theorem consume_withCheck (program : ProgramId) (compiled : List Compiled) :
    consume (withCheck backend check) program compiled = consume backend program compiled := by
  rw [consume_eq_forM, consume_eq_forM]
  rfl

theorem compileBlocks_withCheck (compiled : List Compiled) (blocks : List Block) :
    compileBlocks (withCheck backend check) compiled blocks =
      compileBlocks backend compiled blocks := by
  induction blocks generalizing compiled with
  | nil => rfl
  | cons block rest ih =>
    simp only [compileBlocks, ih, release_withCheck]
    rfl

/-- A build passes its answer on over the advice on its program. -/
def advised (backend : Backend σ) (validate : Bool) (answer : Except BuildError Program) :
    Job σ (Except BuildError Program) :=
  match answer with
  | .ok program => advise backend program.id validate >>= fun _ => pure answer
  | .error _ => pure answer

theorem link_eq_advised (compiled : List Compiled) (validate : Bool) :
    link (withCheck backend check) compiled validate =
      link backend compiled false >>= advised (withCheck backend check) validate := by
  rw [link, link, bind_assoc]
  refine bind_congr fun created => ?_
  cases created with
  | error log => simp only [release_withCheck, bind_assoc, pure_bind, advised]
  | ok program =>
    simp only [attach_withCheck, bind_assoc]
    refine bind_congr fun _ => bind_congr fun linked => ?_
    cases linked with
    | error log =>
      simp only [detach_withCheck, release_withCheck, bind_assoc, pure_bind, advised]
      rfl
    | ok _ =>
      simp only [consume_withCheck, bind_assoc, pure_bind, advised, advise]
      rfl

theorem build_eq_advised (bundle : Bundle) (validate : Bool) :
    build (withCheck backend check) bundle validate =
      build backend bundle false >>= advised (withCheck backend check) validate := by
  rw [build, build, bind_assoc, compileBlocks_withCheck]
  refine bind_congr fun answer => ?_
  cases answer with
  | ok compiled => exact link_eq_advised compiled validate
  | error error => simp only [pure_bind, advised]

/-- Advice changes nothing in the ledger. -/
theorem AdviceCourse.run_eq {program : ProgramId} (h : AdviceCourse program validate events)
    (ledger : Ledger) : ledger.run events = ledger := by
  cases h with
  | unasked => rfl
  | asked answer => cases answer <;> rfl

theorem run_advised (backend : Backend σ) (hcheck : ∀ program, (check program).Finishes)
    (validate : Bool) (answer : Except BuildError Program) (log : List Event) (s : σ) :
    ∃ advice t, (advised (withCheck backend check).recording validate answer).run (log, s) =
      (some answer, log ++ advice, t) ∧ ∀ ledger : Ledger, ledger.run advice = ledger := by
  cases answer with
  | error error => exact ⟨[], s, by simp [advised], fun _ => rfl⟩
  | ok program =>
    obtain ⟨events, hrun, -, hmeets⟩ :=
      (@advise_records σ (withCheck backend check) program.id validate).run log s
    have hfinishes : (advise (withCheck backend check) program.id validate).Finishes :=
      advise_finishes hcheck program.id validate
    obtain ⟨a, ha⟩ := hfinishes s
    rw [ha] at hrun hmeets
    refine ⟨events, ((advise (withCheck backend check) program.id validate).run s).2, ?_,
      AdviceCourse.run_eq hmeets⟩
    rw [advised, Job.run_bind, hrun]
    rfl

/-- **Neither whether nor how a program is validated changes the answer and what is left.** -/
theorem run_build_withCheck (backend : Backend σ)
    (hcheck : ∀ program, (check program).Finishes) (bundle : Bundle) (validate : Bool) (s : σ) :
    ((build (withCheck backend check) bundle validate).run s).1 =
        ((build backend bundle false).run s).1 ∧
      ∀ ledger : Ledger, ledger.run (conversation (withCheck backend check) bundle validate s) =
        ledger.run (conversation backend bundle false s) := by
  obtain ⟨_, hrun, -, -⟩ :=
    (@build_records σ (withCheck backend check) bundle validate).run [] s
  obtain ⟨_, hrun', -, -⟩ := (@build_records σ backend bundle false).run [] s
  -- the build with advice is the build without, and then the advice
  have hadvised : build (withCheck backend check).recording bundle validate =
      build backend.recording bundle false >>= advised (withCheck backend check).recording
        validate := by
    rw [recording_withCheck, build_eq_advised]
  rw [← congrArg Prod.fst hrun, ← congrArg Prod.fst hrun', conversation, conversation, hadvised,
    Job.run_bind]
  rcases (build backend.recording bundle false).run ([], s) with ⟨_ | answer, log, t⟩
  · exact ⟨rfl, fun _ => rfl⟩
  -- the advice passes the answer on and changes nothing in the ledger
  · obtain ⟨advice, u, hrun, hadvice⟩ := run_advised backend hcheck validate answer log t
    have hfst := congrArg Prod.fst hrun
    have hsnd := congrArg (fun result => result.2.1) hrun
    refine ⟨hfst, fun ledger => (congrArg ledger.run hsnd).trans ?_⟩
    rw [Ledger.run_append, hadvice]

/-- **A build settles everything but its program.** It ends unless a log carries a line number too
large for its word, and it never names what it has deleted. -/
theorem build_settles (hreturns : backend.Returns) (bundle : Bundle) (validate : Bool) (s : σ)
    (hfresh : Ledger.Fresh {} (conversation backend bundle validate s)) :
    Ledger.Legal {} (conversation backend bundle validate s) ∧
      (match ((build backend bundle validate).run s).1 with
        | some answer => Settles bundle answer (conversation backend bundle validate s)
        | none => Overflows bundle.blocks (conversation backend bundle validate s)) ∧
      ∀ check : ProgramId → Job σ (Except Text Unit), (∀ program, (check program).Finishes) →
        ∀ validate', ((build (withCheck backend check) bundle validate').run s).1 =
            ((build backend bundle validate).run s).1 ∧
          Ledger.run {} (conversation (withCheck backend check) bundle validate' s) =
            Ledger.run {} (conversation backend bundle validate s) := by
  obtain ⟨events, hrun, -, hmeets⟩ := (@build_records σ backend bundle validate).run [] s
  have hevents : conversation backend bundle validate s = events := by rw [conversation, hrun]; rfl
  refine ⟨?_, ?_, fun check hcheck validate' => ?_⟩
  -- legality: what was said is a course or the beginning of one
  · rw [hevents] at hfresh ⊢
    generalize ((build backend bundle validate).run s).1 = answer at hmeets
    rcases answer with _ | answer
    · obtain ⟨answer, rest, hcourse, hquiet⟩ := hmeets
      have hall := Ledger.along_append.mpr ⟨hfresh, Ledger.fresh_of_quiet hquiet _⟩
      exact (Ledger.along_append.mp (hcourse.leads Ledger.sound_empty hall).1.legal).1
    · exact (Course.leads hmeets Ledger.sound_empty hfresh).1.legal
  -- what it comes to, or why it does not end
  · obtain ⟨answer, events', t, hrun', hcrash⟩ := build_crashesOnly hreturns bundle validate [] s
    rw [hrun] at hrun'
    obtain ⟨hanswer, hlog⟩ := Prod.mk.inj hrun'
    rw [hevents] at hfresh ⊢
    rcases h : ((build backend bundle validate).run s).1 with _ | a
    · obtain rfl : events = events' := by simpa using (Prod.mk.inj hlog).1
      exact hcrash (hanswer.symm.trans h)
    · rw [h] at hmeets
      exact Course.settles hmeets hfresh
  -- validation: both builds are compared with the one that asks for no advice
  · have hself := run_build_withCheck backend (fun program => hreturns (.validate program)) bundle
      validate s
    rw [withCheck_self] at hself
    obtain ⟨hanswer, hledger⟩ := run_build_withCheck backend hcheck bundle validate' s
    exact ⟨hanswer.trans hself.1.symm, (hledger {}).trans (hself.2 {}).symm⟩

/-- A front end that accepts everything. -/
def acceptAll : Headless.FrontEnd :=
  fun _ _ => .ok {}

/-- The short file, compiled by a front end that accepts everything. -/
theorem build_settles_shortBundle :
    Ledger.Fresh {} (conversation (Headless.backend acceptAll) Bundle.shortBundle true {}) ∧
      Settles Bundle.shortBundle (.ok { id := ⟨3⟩, stages := [.vertex, .fragment] })
        (conversation (Headless.backend acceptAll) Bundle.shortBundle true {}) := by
  have hanswer : ((build (Headless.backend acceptAll) Bundle.shortBundle true).run {}).1 =
      some (.ok { id := ⟨3⟩, stages := [.vertex, .fragment] }) := by decide +kernel
  have hfresh : Ledger.Fresh {}
      (conversation (Headless.backend acceptAll) Bundle.shortBundle true {}) := by
    decide +kernel
  -- The hypothesis is not named here: elaborating its name would run the build.
  refine ⟨by assumption, ?_⟩
  have hall := build_settles (Headless.backend_returns acceptAll) Bundle.shortBundle true {}
    (by assumption)
  rw [hanswer] at hall
  exact hall.2.1

end ShaderBundle.Build
