import Mathlib.Data.List.Nodup
import ShaderBundle.Proofs.Graphics.Courses

/-!
# A build gives back what it takes

Every part of a build leads from one ledger to another. Compiling adds stages, attaching wires them
to a program, and whatever comes of linking, the stages and their wires go again. What is added is
kept apart from what was there, so what goes is what was added.

## Any ledger to begin with

The ledger before a build is arbitrary, as long as it is sound: there may be other programs with
stages attached, other stages, a current program. A build begins while others have ended, and its
objects get numbers that are not in use. `Separate` is what this gives: the compiled stages differ
from each other and from all that was there. It makes the lemmas about deleting and detaching
equations between ledgers, and not only statements about what they contain.

## Legality comes along

`Leads` says of a part that its calls are legal and what there is behind it. The two are proved
together because each needs the other. Whether a call is legal is decided by the ledger at that
point, and the ledger is known because everything before was computed.

## Main definitions

* `Ledger.holding`, `Ledger.wiring`, `Ledger.adding`: a ledger with what a build adds to it.
* `Build.behind`: the ledger behind a build.

## Main results

* `Build.Course.leads`: every course of a build is legal, and only its program is left behind it.
* `Build.Course.ignores`: a build is not about programs that were there before.
-/

namespace ShaderBundle

namespace Ledger

variable {ledger : Ledger} {compiled : List Compiled} {program : ProgramId}

/-! ### What a build holds on to

One lemma for each of the four loops. Each of them is an induction on the compiled stages, in which
the first stage goes or is wired and the others are left in place. -/

/-- The ledger with compiled stages. -/
def holding (ledger : Ledger) (compiled : List Compiled) : Ledger :=
  { ledger with stages := ledger.stages ++ compiled.map Compiled.id }

/-- The ledger with stages attached to a program. -/
def wiring (ledger : Ledger) (program : ProgramId) (compiled : List Compiled) : Ledger :=
  { ledger with attached := ledger.attached ++ compiled.map fun c => (program, c.id) }

/-- The ledger with one more program. -/
def adding (ledger : Ledger) (program : ProgramId) : Ledger :=
  { ledger with programs := ledger.programs ++ [program] }

/-- Compiled stages have numbers of their own. -/
structure Separate (ledger : Ledger) (compiled : List Compiled) : Prop where
  /-- They differ from each other. -/
  nodup : (compiled.map Compiled.id).Nodup
  /-- They differ from all others. -/
  notMem : ∀ c ∈ compiled, c.id ∉ ledger.stages

theorem Separate.of_cons {c : Compiled} (h : ledger.Separate (c :: compiled)) :
    ledger.Separate compiled :=
  ⟨(List.nodup_cons.mp h.nodup).2, fun other hother =>
    h.notMem other (List.mem_cons_of_mem _ hother)⟩

theorem Separate.concat (h : ledger.Separate compiled) {stage : Stage} {id : StageId}
    (hnew : id ∉ (ledger.holding compiled).stages) :
    ledger.Separate (compiled ++ [⟨stage, id⟩]) := by
  obtain ⟨hledger, hcompiled⟩ := not_or.mp (mt List.mem_append.mpr hnew)
  refine ⟨?_, fun c hc => ?_⟩
  · rw [List.map_append, List.nodup_append]
    refine ⟨h.nodup, List.nodup_singleton id, fun other hother last hlast heq => hcompiled ?_⟩
    obtain rfl : last = id := List.mem_singleton.mp hlast
    rwa [← heq]
  · rcases List.mem_append.mp hc with hold | hlast
    · exact h.notMem c hold
    · rwa [List.mem_singleton.mp hlast]

theorem holding_concat (c : Compiled) :
    (ledger.holding compiled).after (.reply (.stage c.id)) = ledger.holding (compiled ++ [c]) := by
  simp [holding, after]

/-- Deleting the first of the stages leaves the others. -/
theorem after_deletion {c : Compiled} (h : ledger.Separate (c :: compiled)) :
    (ledger.holding (c :: compiled)).after (.call (.deleteStage c.id)) =
      ledger.holding compiled := by
  have hne : ∀ id ∈ ledger.stages ++ compiled.map Compiled.id, decide (id ≠ c.id) = true := by
    intro id hid
    refine decide_eq_true fun heq => ?_
    rcases List.mem_append.mp hid with hledger | hrest
    · exact h.notMem c List.mem_cons_self (heq ▸ hledger)
    · exact (List.nodup_cons.mp h.nodup).1 (heq ▸ hrest)
  have hfilter := List.filter_eq_self.mpr hne
  rw [List.filter_append] at hfilter
  simp only [holding, after, List.map_cons, List.filter_append]
  rw [List.filter_cons_of_neg (by simp), hfilter]

/-- **Deleting the stages leaves what there was without them.** -/
theorem leads_deletions (h : ledger.Separate compiled) :
    (ledger.holding compiled).Leads (Build.deletions compiled) ledger := by
  induction compiled with
  | nil => exact ⟨trivial, by simp [holding, Build.deletions]⟩
  | cons c rest ih =>
    refine .cons ⟨by simp [Call.stages, holding], by simp [Call.programs]⟩ ?_
    rw [after_deletion h]
    exact ih h.of_cons

/-- Attaching the stages wires them. -/
theorem leads_attachments (hprogram : program ∈ ledger.programs)
    (hstages : ∀ c ∈ compiled, c.id ∈ ledger.stages) :
    ledger.Leads (Build.attachments program compiled) (ledger.wiring program compiled) := by
  induction compiled generalizing ledger with
  | nil => exact ⟨trivial, by simp [wiring, Build.attachments]⟩
  | cons c rest ih =>
    have hwiring : ledger.wiring program (c :: rest) =
        (ledger.after (.call (.attach program c.id))).wiring program rest := by
      simp [wiring, after]
    rw [hwiring]
    refine .cons ⟨?_, by simpa [Call.programs] using hprogram⟩
      (ih hprogram fun other hother => hstages other (List.mem_cons_of_mem _ hother))
    simpa [Call.stages] using hstages c List.mem_cons_self

/-- Detaching the first of the stages leaves the others wired. -/
theorem after_detachment {c : Compiled} (hnodup : ((c :: compiled).map Compiled.id).Nodup)
    (hnew : ∀ pair ∈ ledger.attached, pair.1 ≠ program) :
    (ledger.wiring program (c :: compiled)).after (.call (.detach program c.id)) =
      ledger.wiring program compiled := by
  have hne : ∀ pair ∈ ledger.attached ++ compiled.map fun c => (program, c.id),
      decide (pair ≠ (program, c.id)) = true := by
    intro pair hpair
    refine decide_eq_true fun heq => ?_
    rcases List.mem_append.mp hpair with hledger | hrest
    · exact hnew pair hledger (by rw [heq])
    · obtain ⟨other, hother, rfl⟩ := List.mem_map.mp hrest
      refine (List.nodup_cons.mp hnodup).1 (List.mem_map.mpr ⟨other, hother, ?_⟩)
      simpa using heq
  have hfilter := List.filter_eq_self.mpr hne
  rw [List.filter_append] at hfilter
  simp only [wiring, after, List.map_cons, List.filter_append]
  rw [List.filter_cons_of_neg (by simp), hfilter]

/-- Detaching the stages leaves what there was before they were attached. -/
theorem leads_detachments (hprogram : program ∈ ledger.programs)
    (hstages : ∀ c ∈ compiled, c.id ∈ ledger.stages) (hnodup : (compiled.map Compiled.id).Nodup)
    (hnew : ∀ pair ∈ ledger.attached, pair.1 ≠ program) :
    (ledger.wiring program compiled).Leads (Build.detachments program compiled) ledger := by
  induction compiled with
  | nil => exact ⟨trivial, by simp [wiring, Build.detachments]⟩
  | cons c rest ih =>
    refine .cons ⟨?_, by simpa [Call.programs, wiring] using hprogram⟩ ?_
    · simpa [Call.stages, wiring] using hstages c List.mem_cons_self
    · rw [after_detachment hnodup hnew]
      exact ih (fun other hother => hstages other (List.mem_cons_of_mem _ hother))
        (List.nodup_cons.mp hnodup).2

/-- Detaching and deleting the stages leaves what there was before they were compiled. -/
theorem leads_partings (h : ledger.Separate compiled) (hprogram : program ∈ ledger.programs)
    (hnew : ∀ pair ∈ ledger.attached, pair.1 ≠ program) :
    ((ledger.holding compiled).wiring program compiled).Leads (Build.partings program compiled)
      ledger := by
  induction compiled with
  | nil => exact ⟨trivial, by simp [wiring, holding, Build.partings]⟩
  | cons c rest ih =>
    -- first the stage is detached, then it is deleted, and the others stay wired in between
    have hdetach := @after_detachment (ledger.holding (c :: rest)) rest program c h.nodup hnew
    have hdelete : ((ledger.holding (c :: rest)).wiring program rest).after
        (.call (.deleteStage c.id)) = (ledger.holding rest).wiring program rest :=
      congrArg (fun ledger => wiring ledger program rest) (after_deletion h)
    rw [Build.partings, List.flatMap_cons, List.cons_append, List.cons_append, List.nil_append]
    refine .cons ⟨by simp [Call.stages, wiring, holding],
      by simpa [Call.programs, wiring, holding] using hprogram⟩ (.cons ?_ ?_)
    · rw [hdetach]
      exact ⟨by simp [Call.stages, wiring, holding], by simp [Call.programs]⟩
    · rw [hdetach, hdelete]
      exact ih h.of_cons

end Ledger

namespace Build

variable {ledger : Ledger} {compiled : List Compiled} {blocks : List Block} {validate : Bool}
  {events : List Event}

/-! ### What there is behind a course

The parts of a course are put in a row with `Leads.append`. The freshness of what is handed out is
known for the whole conversation and has to be cut along with it. -/

/-- What there is behind compiling: the compiled stages, or none if one was refused. -/
def compiledBehind (ledger : Ledger) : Except BuildError (List Compiled) → Ledger
  | .ok all => ledger.holding all
  | .error _ => ledger

/-- What there is behind a build: one more program, or nothing if it failed. -/
def behind (ledger : Ledger) : Except BuildError Program → Ledger
  | .ok program => ledger.adding program.id
  | .error _ => ledger

/-- A build takes no program away. -/
theorem subset_behind (answer : Except BuildError Program) :
    ledger.programs ⊆ (behind ledger answer).programs := by
  cases answer with
  | ok program => exact List.subset_append_left _ _
  | error error => exact List.Subset.refl _

theorem CompileCourse.leads {answer : Except BuildError (List Compiled)}
    (h : CompileCourse compiled blocks answer events) (hsep : ledger.Separate compiled)
    (hfresh : (ledger.holding compiled).Fresh events) :
    (ledger.holding compiled).Leads events (compiledBehind ledger answer) ∧
      ∀ all, answer = .ok all → ledger.Separate all := by
  induction h with
  | done compiled =>
    refine ⟨Ledger.leads_nil, fun all hall => ?_⟩
    rwa [← Except.ok.inj hall]
  | @accepted compiled block rest id answer events hrest ih =>
    obtain ⟨-, hnew, hfresh⟩ := hfresh
    have hconcat : (ledger.holding compiled).after (.reply (.stage id)) =
        ledger.holding (compiled ++ [⟨block.stage, id⟩]) :=
      @Ledger.holding_concat ledger compiled ⟨block.stage, id⟩
    change Ledger.Fresh ((ledger.holding compiled).after (.reply (.stage id))) events at hfresh
    rw [hconcat] at hfresh
    obtain ⟨hleads, hseparate⟩ := ih (hsep.concat hnew) hfresh
    rw [← hconcat] at hleads
    exact ⟨.cons (by simp [Ledger.Allows, Call.stages, Call.programs]) (.cons trivial hleads),
      hseparate⟩
  | refused compiled block rest log diagnostics =>
    exact ⟨.cons (by simp [Ledger.Allows, Call.stages, Call.programs])
      (.cons trivial (Ledger.leads_deletions hsep)), fun all hall => nomatch hall⟩

theorem AdviceCourse.leads {program : ProgramId} (h : AdviceCourse program validate events)
    (hprogram : program ∈ ledger.programs) : ledger.Leads events ledger := by
  cases h with
  | unasked => exact Ledger.leads_nil
  | asked answer =>
    refine .cons (by simpa [Ledger.Allows, Call.stages, Call.programs] using hprogram)
      (.cons trivial ?_)
    cases answer <;> exact Ledger.leads_nil

/-- A new program is deleted again without a trace. -/
theorem after_deleteProgram {program : ProgramId} (hsound : ledger.Sound)
    (hnew : program ∉ ledger.programs) :
    (ledger.adding program).after (.call (.deleteProgram program)) = ledger := by
  have hprograms : ledger.programs.filter (· ≠ program) = ledger.programs :=
    List.filter_eq_self.mpr fun other hother => decide_eq_true fun heq => hnew (heq ▸ hother)
  have hattached : ledger.attached.filter (·.1 ≠ program) = ledger.attached :=
    List.filter_eq_self.mpr fun pair hpair =>
      decide_eq_true fun heq => hnew (heq ▸ hsound.attached pair hpair)
  have hcurrent : (if ledger.current = some program then none else ledger.current) =
      ledger.current := if_neg fun heq => hnew (hsound.current program heq)
  simp only [Ledger.adding, Ledger.after, List.filter_append, hprograms, hattached]
  rw [List.filter_cons_of_neg (by simp), List.filter_nil, List.append_nil]
  exact congrArg (fun current => { ledger with current }) hcurrent

/-- The compiled stages are attached to a new program, which the backend is asked to link. -/
theorem leads_wiring (ledger : Ledger) (program : ProgramId) :
    ((ledger.adding program).holding compiled).Leads (attachments program compiled)
        (((ledger.adding program).holding compiled).wiring program compiled) ∧
      ∀ answer, (((ledger.adding program).holding compiled).wiring program compiled).Leads
        (exchange (.link program) [.of (fun _ : Unit => .accepted) answer])
        (((ledger.adding program).holding compiled).wiring program compiled) := by
  have hprogram : program ∈ ((ledger.adding program).holding compiled).programs := by
    simp [Ledger.adding, Ledger.holding]
  refine ⟨Ledger.leads_attachments hprogram fun c hc =>
    List.mem_append_right _ (List.mem_map_of_mem hc), fun answer => ?_⟩
  refine .cons ⟨by simp [Call.stages], ?_⟩ (.cons trivial ?_)
  · intro other hother
    rwa [List.mem_singleton.mp hother]
  · cases answer <;> exact Ledger.leads_nil

/-- Behind linking the stages are gone. -/
theorem LinkCourse.leads {answer : Except BuildError Program}
    (h : LinkCourse compiled validate answer events) (hsep : ledger.Separate compiled)
    (hsound : ledger.Sound) (hfresh : (ledger.holding compiled).Fresh events) :
    (ledger.holding compiled).Leads events (behind ledger answer) ∧
      ∀ program, answer = .ok program → program.id ∉ ledger.programs := by
  cases h with
  | uncreated log =>
    exact ⟨.cons (by simp [Ledger.Allows, Call.stages, Call.programs])
      (.cons trivial (Ledger.leads_deletions hsep)), fun all hall => nomatch hall⟩
  -- The program was made and is deleted last, so everything in between happens with it added.
  | unlinked program log =>
    obtain ⟨-, hnew, -⟩ := hfresh
    obtain ⟨hattach, hlink⟩ := @leads_wiring compiled ledger program
    -- nothing is attached to a program that is new
    have hunattached : ∀ pair ∈ ledger.attached, pair.1 ≠ program := fun pair hpair heq =>
      hnew (heq ▸ hsound.attached pair hpair)
    have hsep' : (ledger.adding program).Separate compiled := ⟨hsep.nodup, hsep.notMem⟩
    have hdetach : (((ledger.adding program).holding compiled).wiring program compiled).Leads
        (detachments program compiled) ((ledger.adding program).holding compiled) :=
      Ledger.leads_detachments (by simp [Ledger.adding, Ledger.holding])
        (fun c hc => List.mem_append_right _ (List.mem_map_of_mem hc)) hsep'.nodup hunattached
    have hdelete : (ledger.adding program).Leads (exchange (.deleteProgram program) []) ledger := by
      refine .cons ⟨by simp [Call.stages], by simp [Call.programs, Ledger.adding]⟩ ?_
      rw [after_deleteProgram hsound hnew]
      exact Ledger.leads_nil
    exact ⟨.cons (by simp [Ledger.Allows, Call.stages, Call.programs]) (.cons trivial
      (hattach.append ((hlink (.error log)).append (hdetach.append
        ((Ledger.leads_deletions hsep').append hdelete))))), fun _ h => nomatch h⟩
  -- The program is kept. Its stages go one by one, and advice on it changes nothing.
  | linked program hadvice =>
    obtain ⟨-, hnew, -⟩ := hfresh
    obtain ⟨hattach, hlink⟩ := @leads_wiring compiled ledger program
    have hunattached : ∀ pair ∈ ledger.attached, pair.1 ≠ program := fun pair hpair heq =>
      hnew (heq ▸ hsound.attached pair hpair)
    have hsep' : (ledger.adding program).Separate compiled := ⟨hsep.nodup, hsep.notMem⟩
    have hprogram : program ∈ (ledger.adding program).programs := by simp [Ledger.adding]
    refine ⟨.cons (by simp [Ledger.Allows, Call.stages, Call.programs]) (.cons trivial ?_), ?_⟩
    · exact hattach.append ((hlink (.ok ())).append
        ((Ledger.leads_partings hsep' hprogram hunattached).append (hadvice.leads hprogram)))
    · intro other hother
      obtain rfl := Except.ok.inj hother
      exact hnew

/-- **A build takes nothing away, and what it leaves is its program.** -/
theorem Course.leads {answer : Except BuildError Program} (h : Course blocks validate answer events)
    (hsound : ledger.Sound) (hfresh : ledger.Fresh events) :
    ledger.Leads events (behind ledger answer) ∧
      ∀ program, answer = .ok program → program.id ∉ ledger.programs := by
  have hnone : ledger.Separate [] := ⟨List.nodup_nil, fun c hc => nomatch hc⟩
  have hholding : ledger.holding [] = ledger := by simp [Ledger.holding]
  cases h with
  | refused h =>
    rw [← hholding] at hfresh
    refine ⟨?_, fun _ h => nomatch h⟩
    have hleads := (h.leads hnone hfresh).1
    rwa [hholding] at hleads
  | compiled h hlink =>
    obtain ⟨hfirst, hsecond⟩ := Ledger.along_append.mp hfresh
    rw [← hholding] at hfirst
    obtain ⟨hleads, hseparate⟩ := h.leads hnone hfirst
    rw [hholding] at hleads
    rw [hleads.run_eq] at hsecond
    obtain ⟨hleads', hnew⟩ := hlink.leads (hseparate _ rfl) hsound hsecond
    exact ⟨hleads.append hleads', hnew⟩

/-! ### Programs that were there before

No constructor of a course mentions a program other than the new one, and the new one has a number
that was not in use. This is what lets a build go on while other programs are in use. -/

theorem CompileCourse.ignores {answer : Except BuildError (List Compiled)}
    (h : CompileCourse compiled blocks answer events) (id : ProgramId) : Ignores id events := by
  induction h with
  | done compiled => exact fun _ hevent => nomatch hevent
  | accepted id h ih =>
    exact ignores_append.mpr ⟨by simp [Ignores, exchange, Event.Concerns, Call.programs], ih⟩
  | refused compiled block rest log diagnostics =>
    simp [Ignores, exchange, deletions, Event.Concerns, Call.programs]

theorem LinkCourse.ignores {answer : Except BuildError Program}
    (h : LinkCourse compiled validate answer events) (hfresh : ledger.Fresh events) {id : ProgramId}
    (hid : id ∈ ledger.programs) : Ignores id events := by
  cases h with
  | uncreated log => simp [Ignores, exchange, deletions, Event.Concerns, Call.programs]
  | unlinked program log =>
    have hne : id ≠ program := fun heq => hfresh.2.1 (heq ▸ hid)
    simp [Ignores, exchange, attachments, detachments, deletions, Event.Concerns, Call.programs,
      or_imp, forall_and, hne]
  | @linked program advice hadvice =>
    have hne : id ≠ program := fun heq => hfresh.2.1 (heq ▸ hid)
    have hadvised : Ignores id advice := by
      clear hfresh
      cases hadvice with
      | unasked => exact fun _ hevent => absurd hevent List.not_mem_nil
      | asked answer =>
        cases answer <;> simp [Ignores, exchange, Reply.of, Event.Concerns, Call.programs, hne]
    have hparted : Ignores id (partings program compiled) := by
      intro event hevent
      obtain ⟨c, -, hparting⟩ := List.mem_flatMap.mp hevent
      simp only [List.mem_cons, List.not_mem_nil, or_false] at hparting
      rcases hparting with rfl | rfl <;> simp [Event.Concerns, Call.programs, hne]
    simp only [ignores_append]
    refine ⟨?_, ?_, ?_, hparted, hadvised⟩
    all_goals simp [Ignores, exchange, attachments, Event.Concerns, Call.programs, hne]

/-- **A build is not about programs that were there before.** -/
theorem Course.ignores {answer : Except BuildError Program}
    (h : Course blocks validate answer events) (hfresh : ledger.Fresh events) {id : ProgramId}
    (hid : id ∈ ledger.programs) : Ignores id events := by
  cases h with
  | refused h => exact h.ignores id
  | @compiled compiled _ first second h hlink =>
    obtain ⟨hfirst, hsecond⟩ := Ledger.along_append.mp hfresh
    have hnone : ledger.Separate [] := ⟨List.nodup_nil, fun c hc => nomatch hc⟩
    have hholding : ledger.holding [] = ledger := by simp [Ledger.holding]
    rw [← hholding] at hfirst
    have hleads := (h.leads hnone hfirst).1
    rw [hholding] at hleads
    rw [hleads.run_eq] at hsecond
    exact ignores_append.mpr ⟨h.ignores id, hlink.ignores hsecond hid⟩

end Build

end ShaderBundle
