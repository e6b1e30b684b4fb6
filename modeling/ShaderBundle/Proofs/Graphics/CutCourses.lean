import ShaderBundle.Proofs.Graphics.Conservation

/-!
# Builds that crash

If all operations but compiling end, a build crashes over a block: the backend crashes over its
source, or it refuses the source with a log that carries a line number too large for its word. The
stages of the blocks before it were compiled by then, and nobody deletes them.

## What is left behind

A build that fails deletes the stages that it compiled, and one that succeeds does so too. A build
that crashes cannot: the crash ends the job in which the stages are known, and their numbers are
lost with it. So there is a third kind of course beside those of success and failure, with no
deletions in it. It ends with the call over which the backend crashed, or with the refusal whose log
could not be read, and what it leaves are exactly the stages of the blocks before.

That no other way to crash exists is `build_cut`. It has the hypothesis `Backend.Steady`, that
operations other than compiling end, which the backends of the library fulfil.

## Main definitions

* `Build.CutCourse` are the courses on which a build crashes, each with the stages that it leaves.

## Main results

* `Build.build_cut`: a build that crashes takes one of them.
* `Build.CutCourse.leads`: the stages are there behind it, and nothing else has changed.
-/

namespace ShaderBundle.Build

variable {σ : Type} {backend : Backend σ} {blocks : List Block} {ids : List StageId}
  {events : List Event} {ledger : Ledger}

/-- The courses on which compiling blocks crashes, with the stages that were accepted before. -/
inductive CutCourse (backend : Backend σ) : List Block → List StageId → List Event → Prop where
  /-- The backend crashes over the source. -/
  | unanswered {block : Block} {rest : List Block}
    (hcrash : ¬(backend.compile block.stage block.source).Finishes) :
    CutCourse backend (block :: rest) [] (exchange (.compile block.stage) [])
  /-- The source is refused, and the log cannot be read. -/
  | overflown {block : Block} {rest : List Block} (log : Text)
    (hoverflow : Diagnostic.remapBlock? block log = none) :
    CutCourse backend (block :: rest) [] (exchange (.compile block.stage) [.refused log])
  /-- The source is accepted, and compiling what is behind it crashes. -/
  | accepted {block : Block} {rest : List Block} (id : StageId) {ids : List StageId}
    {events : List Event} (h : CutCourse backend rest ids events) :
    CutCourse backend (block :: rest) (id :: ids)
      (exchange (.compile block.stage) [.stage id] ++ events)

/-- Some stages are left behind on a course on which compiling blocks crashes. -/
def IsCut (backend : Backend σ) (blocks : List Block) (events : List Event) : Prop :=
  ∃ ids, CutCourse backend blocks ids events

theorem compileBlock_cut (block : Block) (rest : List Block) :
    Job.CrashesOnly (IsCut backend (block :: rest)) (compileBlock backend.recording block) := by
  intro log s
  have hrun : (backend.recording.compile block.stage block.source).run (log, s) = _ :=
    Job.run_recorded (.compile block.stage) (fun answer => [.of .stage answer]) log s
  -- the backend crashes, or it answers with a stage or a log
  rcases hplain : (backend.compile block.stage block.source).run s with ⟨_ | answer, t⟩
  · rw [hplain] at hrun
    have hcrash : ¬(backend.compile block.stage block.source).Finishes := by
      intro hfinishes
      obtain ⟨answer, hanswer⟩ := hfinishes s
      simp [hplain] at hanswer
    rw [compileBlock, Job.run_bind, hrun]
    exact ⟨none, _, t, rfl, fun _ => ⟨[], .unanswered hcrash⟩⟩
  · rw [hplain] at hrun
    rw [compileBlock, Job.run_bind, hrun]
    cases answer with
    | ok id => exact ⟨some _, _, t, rfl, by simp⟩
    | error refusal =>
      simp only [Job.run_bind, run_diagnose]
      -- the log is read, or it carries a number that is too large
      cases hremap : Diagnostic.remapBlock? block refusal with
      | none => exact ⟨none, _, t, rfl, fun _ => ⟨[], .overflown refusal hremap⟩⟩
      | some diagnostics => exact ⟨some _, _, t, rfl, by simp⟩

/-- Compiling what is behind a block crashes, which was accepted then. -/
def RestIsCut (backend : Backend σ) (rest : List Block) :
    Except BuildError Compiled → List Event → Prop
  | .ok _, events => IsCut backend rest events
  | .error _, _ => False

theorem compileBlocks_cut (h : backend.Steady) (compiled : List Compiled) (blocks : List Block) :
    Job.CrashesOnly (IsCut backend blocks) (compileBlocks backend.recording compiled blocks) := by
  induction blocks generalizing compiled with
  | nil => exact (@Job.records_pure _ _ backend _).crashesOnly (Job.finishes_pure _)
  | cons block rest ih =>
    refine (compileBlock_records block).bind_crashesOnly (compileBlock_cut block rest)
      (T := RestIsCut backend rest)
      (fun answer => ?_) fun answer first second hfirst hsecond => ?_
    · cases answer with
      | ok c => exact ih (compiled ++ [c])
      | error error =>
        exact ((release_records compiled).bind fun _ => Job.records_pure _).crashesOnly
          ((release_finishes h compiled).bind fun _ => Job.finishes_pure _)
    · cases hfirst with
      | accepted id =>
        obtain ⟨ids, hcut⟩ := hsecond
        exact ⟨id :: ids, .accepted id hcut⟩
      | refused => exact hsecond.elim

/-- **If all operations but compiling end, a build crashes on these courses only.** -/
theorem build_cut (h : backend.Steady) (bundle : Bundle) (validate : Bool) :
    Job.CrashesOnly (IsCut backend bundle.blocks) (build backend.recording bundle validate) := by
  refine (compileBlocks_records [] bundle.blocks).bind_crashesOnly
    (compileBlocks_cut h [] bundle.blocks) (T := fun _ _ => False) (fun answer => ?_)
    fun _ _ _ _ hnever => hnever.elim
  cases answer with
  | ok compiled =>
    exact (link_records compiled validate).crashesOnly (link_finishes h compiled validate)
  | error error => exact (@Job.records_pure _ _ backend _).crashesOnly (Job.finishes_pure _)

/-- **Behind a build that crashes there are the stages that were accepted**, and nothing else has
changed. -/
theorem CutCourse.leads (h : CutCourse backend blocks ids events) (ledger : Ledger) :
    ledger.Leads events { ledger with stages := ledger.stages ++ ids } := by
  have hcompile : ∀ (ledger : Ledger) (stage : Stage), ledger.Allows (.call (.compile stage)) := by
    simp [Ledger.Allows, Call.stages, Call.programs]
  induction h generalizing ledger with
  | unanswered =>
    rw [List.append_nil]
    exact .cons (hcompile _ _) Ledger.leads_nil
  | overflown =>
    rw [List.append_nil]
    exact .cons (hcompile _ _) (.cons trivial Ledger.leads_nil)
  | accepted id _ ih =>
    have hrest := ih (ledger.after (.reply (.stage id)))
    rw [Ledger.after, List.append_assoc] at hrest
    exact .cons (hcompile _ _) (.cons trivial hrest)

/-- Such a course is not about programs. -/
theorem CutCourse.ignores (h : CutCourse backend blocks ids events) (id : ProgramId) :
    Ignores id events := by
  induction h with
  | unanswered | overflown => simp [Ignores, exchange, Event.Concerns, Call.programs]
  | accepted _ _ ih =>
    exact ignores_append.mpr ⟨by simp [Ignores, exchange, Event.Concerns, Call.programs], ih⟩

end ShaderBundle.Build
