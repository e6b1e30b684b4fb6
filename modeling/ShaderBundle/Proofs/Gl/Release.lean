import ShaderBundle.Proofs.Gl.Objects
import ShaderBundle.Proofs.Graphics.Settled
import ShaderBundle.Proofs.Graphics.Wiring

/-!
# A build releases its objects

A build over OpenGL makes shaders and programs, and a driver may refuse anything on the way: it may
hand out zero instead of an object, or report that compiling, linking or validating failed. Whatever
it answers, the shaders of a build are deleted when the build returns, and so is its program if the
build failed. The proof does not go through builds again: it is known what a build says to a
backend, and what the backend says to the driver comes to the same objects.

## Two levels

That a build gives back what it takes is a fact about the conversation with its backend
(`Build.Course`), whatever the backend is. Here the backend is the one over a driver, and each of
its operations is a conversation of its own. `Mirrors` says that what is said to the driver comes to
what is said to the backend: the same objects in the end, the same attachments, and lawful requests
where the calls were legal. It is a property of pieces of the two conversations and composes
(`Mirrors.append`), so it is proved operation by operation and then along a path of operations.

The two differ inside an operation. A shader that is refused appears and disappears in what is said
to the driver, and the conversation with the backend has no trace of it. Therefore deletions are
compared with creations in what was said to the driver, where such a shader counts on both sides,
and not with the stages of the build.

## What is assumed

Only that no number in use is handed out (`Unused`), and that the ledger at the beginning describes
what is there (`Standing`). No driver is assumed to tell the truth about a status.

## What happens without a return

A build over this backend may fail to return for a single reason, a log with a line number that is
too large. In that case nothing is said here about what was released; the second half of
`build_releases` only says that this was the reason.

## Main definitions

* `Mirrors`: exchanges with a driver come to what a conversation with the backend comes to.
* `Standing`: what there is when a build begins.
* `Releases`: what is to be said of the objects behind a build.

## Main results

* `mirrors_path`: along the operations of a build the exchanges mirror the conversation.
* `build_releases`: a build releases its objects, over every driver that hands out unused numbers.

## Implementation notes

A number may be handed out again once its object is deleted, so an object is released if its number
is deleted as often as it is handed out.
-/

namespace ShaderBundle

namespace Gl

variable {σ α β : Type} {driver : Driver σ}

/-! ### Exchanges that mirror a conversation

One lemma for each operation that a build uses. The calls that a build does not make, those about
uniforms among them, do not occur here. -/

/-- The current program is not deleted. -/
def Spares (current : Option ProgramId) (events : List Event) : Prop :=
  ∀ id, current = some id → .call (.deleteProgram id) ∉ events

/-- What is said to the driver comes to what is said to the backend. -/
structure Mirrors (ledger : Ledger) (events : List Event) (said : List Exchange) : Prop where
  /-- The backend hands out unused numbers if the driver does. -/
  fresh : ledger.Fresh events
  /-- There are the same objects behind both. -/
  run_eq : ledger.run (deeds said) = ledger.run events
  /-- The same is attached and detached, and the same programs come and go. -/
  wiring_eq : wiring (deeds said) = wiring events
  /-- The requests name objects that are there if the calls do. -/
  lawful : ledger.Legal events → Spares ledger.current events → Lawful ledger said

theorem mirrors_nil (ledger : Ledger) : Mirrors ledger [] [] where
  fresh := trivial
  run_eq := rfl
  wiring_eq := rfl
  lawful _ _ := trivial

theorem Mirrors.append {ledger : Ledger} {first second : List Event} {said more : List Exchange}
    (h : Mirrors ledger first said) (hbuilds : OnlyBuilds first)
    (h' : Mirrors (ledger.run first) second more) :
    Mirrors ledger (first ++ second) (said ++ more) where
  fresh := Ledger.along_append.mpr ⟨h.fresh, h'.fresh⟩
  run_eq := by rw [deeds_append, Ledger.run_append, Ledger.run_append, h.run_eq, h'.run_eq]
  wiring_eq := by rw [deeds_append, wiring_append, wiring_append, h.wiring_eq, h'.wiring_eq]
  lawful hlegal hspares := by
    obtain ⟨hfirst, hsecond⟩ := Ledger.along_append.mp hlegal
    refine lawful_append.mpr ⟨h.lawful hfirst fun id hid hmem =>
      hspares id hid (List.mem_append_left _ hmem), ?_⟩
    rw [h.run_eq]
    exact h'.lawful hsecond fun id hid hmem =>
      hspares id (hbuilds.current_eq hid) (List.mem_append_right _ hmem)

variable {ledger : Ledger}

/-- A stage is compiled. One that is refused is gone again. -/
theorem CompileTalk.mirrors {stage : Stage} {source : Text} {answer : Except Text StageId}
    {said : List Exchange} (h : CompileTalk stage source answer said)
    (hfresh : ledger.Fresh (deeds said)) :
    Mirrors ledger (exchange (.compile stage) [.of .stage answer]) said := by
  cases h with
  -- Nothing was made, and the backend says so.
  | unsent log =>
    exact ⟨⟨trivial, trivial, trivial⟩, rfl, rfl, fun _ _ => trivial⟩
  | uncreated log =>
    exact ⟨⟨trivial, trivial, trivial⟩, rfl, rfl, fun _ _ => ⟨named_of_nothing rfl rfl, trivial⟩⟩
  -- A shader was made and is kept. It is the stage that the backend hands out.
  | @accepted n hn =>
    have hdeeds : deeds (⟨.createShader (stageType stage), n⟩ :: submission n source true) =
        [.reply (.stage ⟨n⟩)] := by
      rw [deeds_cons, (tends_submission n source true).deeds_eq, deeds_createShader hn]
      rfl
    rw [hdeeds] at hfresh
    refine ⟨⟨trivial, hfresh⟩, by rw [hdeeds]; rfl, by rw [hdeeds]; rfl, fun _ _ =>
      ⟨named_of_nothing rfl rfl,
        (tends_submission n source true).lawful ?_ (List.forall_mem_nil _)⟩⟩
    simp [deeds_createShader hn, Ledger.after]
  -- A shader was made and deleted. To the backend nothing happened.
  | @refused n hn log length bytes =>
    have hdeeds : deeds (⟨.createShader (stageType stage), n⟩ :: (submission n source false ++
        (shaderReading n length bytes ++ [⟨.deleteShader n, ()⟩]))) =
        [.reply (.stage ⟨n⟩), .call (.deleteStage ⟨n⟩)] := by
      rw [deeds_cons, deeds_append, deeds_append, (tends_submission n source false).deeds_eq,
        (tends_shaderReading n length bytes).deeds_eq, deeds_createShader hn]
      rfl
    rw [hdeeds] at hfresh
    -- the deleted number was not in use before, so the others stay
    have hgone : (ledger.stages ++ [(⟨n⟩ : StageId)]).filter (· ≠ (⟨n⟩ : StageId)) =
        ledger.stages := by
      have hold : ∀ other ∈ ledger.stages, decide (other ≠ (⟨n⟩ : StageId)) = true :=
        fun other hother => decide_eq_true fun heq => hfresh.1 (heq ▸ hother)
      rw [List.filter_append, List.filter_eq_self.mpr hold]
      simp
    refine ⟨⟨trivial, trivial, trivial⟩, ?_, by rw [hdeeds]; rfl, fun _ _ =>
      ⟨named_of_nothing rfl rfl, ?_⟩⟩
    · rw [hdeeds]
      exact congrArg (fun stages => { ledger with stages }) hgone
    · have hthere : ∀ shader ∈ [(⟨n⟩ : StageId)], shader ∈
          (ledger.run (Exchange.deeds ⟨.createShader (stageType stage), n⟩)).stages := by
        simp [deeds_createShader hn, Ledger.after]
      have hnone := List.forall_mem_nil (· ∈ (ledger.run
        (Exchange.deeds ⟨.createShader (stageType stage), n⟩)).programs)
      refine lawful_append.mpr ⟨(tends_submission n source false).lawful hthere hnone, ?_⟩
      rw [(tends_submission n source false).deeds_eq, Ledger.run_nil]
      refine lawful_append.mpr ⟨(tends_shaderReading n length bytes).lawful hthere hnone, ?_⟩
      rw [(tends_shaderReading n length bytes).deeds_eq, Ledger.run_nil]
      exact ⟨⟨hthere, hnone⟩, trivial⟩

/-- A program is made, or there is none. -/
theorem CreateTalk.mirrors {answer : Except Text ProgramId} {said : List Exchange}
    (h : CreateTalk answer said) (hfresh : ledger.Fresh (deeds said)) :
    Mirrors ledger (exchange .createProgram [.of .program answer]) said := by
  cases h with
  | uncreated log =>
    exact ⟨⟨trivial, trivial, trivial⟩, rfl, rfl, fun _ _ => ⟨named_of_nothing rfl rfl, trivial⟩⟩
  | @accepted n hn =>
    have hdeeds : deeds [⟨.createProgram, n⟩] = [.reply (.program ⟨n⟩)] := by
      rw [deeds_cons, deeds_createProgram hn]
      rfl
    rw [hdeeds] at hfresh
    exact ⟨⟨trivial, hfresh⟩, by rw [hdeeds]; rfl, by rw [hdeeds]; rfl,
      fun _ _ => ⟨named_of_nothing rfl rfl, trivial⟩⟩

/-- A program is linked or validated. -/
theorem Tends.mirrors {program : ProgramId} {said : List Exchange} (h : Tends [] [program] said)
    {call : Call} (hcall : call = .link program ∨ call = .validate program)
    (answer : Except Text Unit) :
    Mirrors ledger (exchange call [.of (fun _ => .accepted) answer]) said where
  fresh := by rcases hcall with rfl | rfl <;> cases answer <;> exact ⟨trivial, trivial, trivial⟩
  run_eq := by
    rw [h.deeds_eq]
    rcases hcall with rfl | rfl <;> cases answer <;> rfl
  wiring_eq := by
    rw [h.deeds_eq]
    rcases hcall with rfl | rfl <;> cases answer <;> rfl
  lawful hlegal _ := by
    refine h.lawful (List.forall_mem_nil _) ?_
    rcases hcall with rfl | rfl <;> exact hlegal.1.2

/-- A single request that does what the call says. -/
theorem mirrors_order {call : Call} {x : Exchange} (hdeeds : x.deeds = [.call call])
    (hshaders : x.request.shaders = call.stages) (hprograms : x.request.programs = call.programs) :
    Mirrors ledger (exchange call []) [x] := by
  have hsame : deeds [x] = exchange call [] := by rw [deeds_cons, hdeeds]; rfl
  refine ⟨⟨trivial, trivial⟩, by rw [hsame], by rw [hsame], fun hlegal _ => ⟨⟨?_, ?_⟩, trivial⟩⟩
  · exact hshaders ▸ hlegal.1.1
  · exact hprograms ▸ hlegal.1.2

/-- A program is deleted. The backend gives it up first if it is current. -/
theorem deleteProgram_mirrors (driver : Driver σ) (program : ProgramId)
    (s : State (List Exchange × σ)) (hcurrent : ledger.current = s.current) :
    ∃ t said, (deleteProgram driver.recording program).run s = (some (), t) ∧
      t.driver.1 = s.driver.1 ++ said ∧
      (ledger.run (exchange (.deleteProgram program) [])).current = t.current ∧
      Mirrors ledger (exchange (.deleteProgram program) []) said := by
  rw [deleteProgram, Job.run_bind, run_get]
  simp only []
  by_cases hsame : s.current = some program
  · rw [if_pos hsame]
    refine ⟨_, [⟨.useProgram 0, ()⟩, ⟨.deleteProgram program.raw, ()⟩], rfl, ?_, ?_, ?_⟩
    · exact List.append_assoc ..
    · exact if_pos (hcurrent.trans hsame)
    · refine ⟨⟨trivial, trivial⟩, ?_, rfl, fun _ hspares => ?_⟩
      · simp [Exchange.deeds, Ledger.after, exchange, hcurrent, hsame]
      · exact absurd List.mem_cons_self (hspares program (hcurrent.trans hsame))
  · rw [if_neg hsame]
    refine ⟨_, [⟨.deleteProgram program.raw, ()⟩], rfl, rfl, ?_, mirrors_order rfl rfl rfl⟩
    exact (if_neg fun h => hsame (hcurrent ▸ h)).trans hcurrent

/-- The operation of a build: it adds to what was said, and what it adds mirrors the call. -/
theorem mirrors_operation {call : Call} {replies : α → List Reply}
    {job : Job (State (List Exchange × σ)) α}
    (h : (backend driver.recording).Operation call replies job) (hbuilds : (Event.call call).Builds)
    (s : State (List Exchange × σ)) (hcurrent : ledger.current = s.current) :
    ∃ a t said, job.run s = (some a, t) ∧ t.driver.1 = s.driver.1 ++ said ∧
      (ledger.run (exchange call (replies a))).current = t.current ∧
      (ledger.Fresh (deeds said) → Mirrors ledger (exchange call (replies a)) said) := by
  cases h with
  | deleteProgram program =>
    obtain ⟨t, said, hrun, hsaid, hledger, hmirrors⟩ :=
      deleteProgram_mirrors driver program s hcurrent
    exact ⟨(), t, said, hrun, hsaid, hledger, fun _ => hmirrors⟩
  | deleteStage stage =>
    exact ⟨(), _, [⟨.deleteShader stage.raw, ()⟩], rfl, rfl, hcurrent,
      fun _ => mirrors_order rfl rfl rfl⟩
  | attach program stage =>
    exact ⟨(), _, [⟨.attachShader program.raw stage.raw, ()⟩], rfl, rfl, hcurrent,
      fun _ => mirrors_order rfl rfl rfl⟩
  | detach program stage =>
    exact ⟨(), _, [⟨.detachShader program.raw stage.raw, ()⟩], rfl, rfl, hcurrent,
      fun _ => mirrors_order rfl rfl rfl⟩
  | compile stage source =>
    obtain ⟨a, said, after, hrun, htalk⟩ :=
      says_compile driver stage source s.current s.driver.1 s.driver.2
    refine ⟨a, _, said, hrun, rfl, ?_, htalk.mirrors⟩
    cases a <;> exact hcurrent
  | createProgram =>
    obtain ⟨a, said, after, hrun, htalk⟩ :=
      says_createProgram driver s.current s.driver.1 s.driver.2
    refine ⟨a, _, said, hrun, rfl, ?_, htalk.mirrors⟩
    cases a <;> exact hcurrent
  | link program =>
    obtain ⟨a, said, after, hrun, htends⟩ :=
      says_link driver program s.current s.driver.1 s.driver.2
    refine ⟨a, _, said, hrun, rfl, ?_, fun _ => htends.mirrors (.inl rfl) a⟩
    cases a <;> exact hcurrent
  | validate program =>
    obtain ⟨a, said, after, hrun, htends⟩ :=
      says_validate driver program s.current s.driver.1 s.driver.2
    refine ⟨a, _, said, hrun, rfl, ?_, fun _ => htends.mirrors (.inr rfl) a⟩
    cases a <;> exact hcurrent
  | _ => exact hbuilds.elim

/-- **Along the operations of a build the exchanges with the driver mirror the conversation with the
backend.** -/
theorem mirrors_path {s t : State (List Exchange × σ)} {events : List Event}
    (h : (backend driver.recording).Path s events t) (hbuilds : OnlyBuilds events) {ledger : Ledger}
    (hcurrent : ledger.current = s.current) :
    ∃ said, t.driver.1 = s.driver.1 ++ said ∧
      (ledger.Fresh (deeds said) → Mirrors ledger events said) := by
  induction h generalizing ledger with
  | refl s => exact ⟨[], (List.append_nil _).symm, fun _ => mirrors_nil ledger⟩
  | @step s middle t first rest hstep hrest ih =>
    obtain ⟨hfirst, hbehind⟩ := onlyBuilds_append.mp hbuilds
    -- what holds of one operation, and then along the rest
    suffices hone : ∃ said, middle.driver.1 = s.driver.1 ++ said ∧
        (ledger.run first).current = middle.current ∧
        (ledger.Fresh (deeds said) → Mirrors ledger first said) by
      obtain ⟨said, hsaid, hledger, hmirrors⟩ := hone
      obtain ⟨more, hmore, hmirrors'⟩ := ih hbehind hledger
      refine ⟨said ++ more, by rw [hmore, hsaid, List.append_assoc], fun hfresh => ?_⟩
      rw [deeds_append] at hfresh
      obtain ⟨hnew, hlater⟩ := Ledger.along_append.mp hfresh
      have hhere := hmirrors hnew
      exact hhere.append hfirst (hmirrors' (hhere.run_eq ▸ hlater))
    cases hstep with
    -- The operation that ran is the one that mirrors, and a job runs in one way.
    | answered hop hrun =>
      obtain ⟨a, t, said, hrun', hsaid, hledger, hmirrors⟩ :=
        mirrors_operation hop (hfirst _ List.mem_cons_self) s hcurrent
      obtain ⟨heq, rfl⟩ := Prod.mk.inj (hrun.symm.trans hrun')
      obtain rfl := Option.some.inj heq
      exact ⟨said, hsaid, hledger, hmirrors⟩
    | crashed hop hrun =>
      obtain ⟨a, t, said, hrun', -⟩ :=
        mirrors_operation hop (hfirst _ List.mem_cons_self) s hcurrent
      cases (Prod.mk.inj (hrun.symm.trans hrun')).1

/-! ### Operations return

Every loop of the backend is over a number that the driver gave, so every operation comes to an end.
This is what leaves the overflow of a line number as the only way for a build not to return. -/

theorem finishes_ask (driver : Driver σ) (request : Request) : (ask driver request).Finishes :=
  Job.finishes_step _

theorem finishes_order (driver : Driver σ) (request : Request) : (order driver request).Finishes :=
  (finishes_ask driver request).bind fun _ => Job.finishes_pure ()

theorem finishes_compile (driver : Driver σ) (stage : Stage) (source : Text) :
    (compile driver stage source).Finishes := by
  rw [compile]
  split
  · exact Job.finishes_pure _
  · refine (finishes_ask driver _).bind fun shader => ?_
    split
    · exact Job.finishes_pure _
    · refine (finishes_order driver _).bind fun _ => (finishes_order driver _).bind fun _ =>
        (finishes_ask driver _).bind fun compiled => ?_
      split
      · exact Job.finishes_pure _
      · exact ((finishes_ask driver _).bind fun _ => (finishes_ask driver _).bind fun _ =>
          Job.finishes_pure _).bind fun _ => (finishes_order driver _).bind fun _ =>
            Job.finishes_pure _

theorem finishes_attempt (driver : Driver σ) (program : ProgramId) (request : Request)
    {status : Job (State σ) Bool} (h : status.Finishes) :
    (attempt driver program request status).Finishes := by
  refine (finishes_order driver request).bind fun _ => h.bind fun accepted => ?_
  split
  · exact Job.finishes_pure _
  · exact ((finishes_ask driver _).bind fun _ => (finishes_ask driver _).bind fun _ =>
      Job.finishes_pure _).bind fun _ => Job.finishes_pure _

theorem finishes_uniformLocation (driver : Driver σ) (program : ProgramId) (name : Text) :
    (uniformLocation driver program name).Finishes := by
  rw [uniformLocation]
  split
  · exact Job.finishes_pure _
  · exact (finishes_ask driver _).bind fun _ => Job.finishes_pure _

theorem finishes_activeUniformsFrom (driver : Driver σ) (program : ProgramId)
    (room left index : Nat) : (activeUniformsFrom driver program room left index).Finishes := by
  induction left generalizing index with
  | zero => exact Job.finishes_pure _
  | succ left ih =>
    exact ((finishes_ask driver _).bind fun _ => (finishes_uniformLocation driver program _).bind
      fun _ => Job.finishes_pure _).bind fun _ => (ih (index + 1)).bind fun _ => Job.finishes_pure _

/-- Every operation of the backend returns, whatever the driver answers. -/
theorem backend_returns (driver : Driver σ) : (backend driver).Returns := by
  intro α call replies job h
  cases h with
  | compile stage source => exact finishes_compile driver stage source
  | createProgram => exact (finishes_ask driver _).bind fun _ => Job.finishes_pure _
  | link program | validate program =>
    exact finishes_attempt driver program _ (finishes_ask driver _)
  | uniformLocation program name => exact finishes_uniformLocation driver program name
  | attributeLocation program name =>
    change (attributeLocation driver program name).Finishes
    rw [attributeLocation]
    split
    · exact Job.finishes_pure _
    · exact (finishes_ask driver _).bind fun _ => Job.finishes_pure _
  | activeUniforms program =>
    exact (finishes_ask driver _).bind fun _ => (finishes_ask driver _).bind fun _ =>
      finishes_activeUniformsFrom driver program _ _ _
  | deleteProgram program =>
    intro s
    change ∃ a, ((deleteProgram driver program).run s).1 = some a
    rw [deleteProgram, Job.run_bind, run_get]
    simp only []
    split
    · exact ⟨(), rfl⟩
    · exact ⟨(), rfl⟩
  | setUniform program location value =>
    intro s
    change ∃ a, ((setUniform driver program location value).run s).1 = some a
    rw [setUniform, Job.run_bind, run_get]
    by_cases hsame : s.current = some program
    · simp only [hsame, ne_eq, not_true_eq_false, if_false]
      exact ⟨(), rfl⟩
    · simp only [hsame, ne_eq, not_false_eq_true, if_true]
      exact ⟨(), rfl⟩
  | use program => exact (finishes_order driver _).bind fun _ => Job.finishes_change _
  | deleteStage | attach | detach => exact finishes_order driver _

/-! ### Builds

The course of the build, seen by the backend, and the mirror, seen by the driver, put together. -/

/-- What there is when a build begins, with the program that the backend has for current. -/
structure Standing (current : Option ProgramId) (before : Ledger) : Prop where
  /-- Only programs that exist have shaders or are current. -/
  sound : before.Sound
  /-- The current program is known. -/
  current_eq : before.current = current
  /-- No shader is there twice. -/
  nodup : before.stages.Nodup
  /-- Zero is no object. -/
  zeroFree : ZeroFree before

/-- No number that is in use is handed out. -/
structure Unused (before : Ledger) (said : List Exchange) : Prop where
  /-- What the exchanges hand out is new. -/
  fresh : before.Fresh (deeds said)

/-- What is to be said of the objects behind a build that returns. -/
structure Releases (before : Ledger) (answer : Except BuildError Program)
    (said : List Exchange) : Prop where
  /-- Every request names objects that are there when it is made. -/
  lawful : Lawful before said
  /-- No request names zero. -/
  ne_zero : ∀ x ∈ said, ⟨0⟩ ∉ x.request.shaders ∧ ⟨0⟩ ∉ x.request.programs
  /-- Every shader is deleted as often as it was made. -/
  shaders : ∀ id, (deeds said).count (.call (.deleteStage id)) =
    (deeds said).count (.reply (.stage id))
  /-- Every shader is detached as often as it was attached. -/
  unwires : Unwires (deeds said)
  /-- The program is kept if the build succeeded and deleted if it failed. -/
  retains : Retains answer (deeds said)
  /-- There is what there was before, with the program of the build if it succeeded. -/
  left : before.run (deeds said) = Build.behind before answer

/-- **Exchanges that mirror a course of a build release what the build has made.** -/
theorem Mirrors.releases {before : Ledger} {current : Option ProgramId} {blocks : List Block}
    {validate : Bool} {answer : Except BuildError Program} {events : List Event}
    {said : List Exchange} (h : Mirrors before events said)
    (hcourse : Build.Course blocks validate answer events) (hunused : Unused before said)
    (hbefore : Standing current before) : Releases before answer said := by
  obtain ⟨hlegal, hrun⟩ := (hcourse.leads hbefore.sound h.fresh).1
  -- the build does not touch what was there before it
  have hspares : Spares before.current events := fun id hid =>
    (hcourse.ignores h.fresh (hbefore.sound.current id hid)).not_deleteProgram
  have hlawful := h.lawful hlegal hspares
  have hwiring := hcourse.wiringCourse
  rw [← h.wiring_eq] at hwiring
  have hleft : before.run (deeds said) = Build.behind before answer := h.run_eq.trans hrun
  refine ⟨hlawful, hlawful.ne_zero hbefore.zeroFree, fun id => ?_,
    unwires_wiring.mp hwiring.unwires, retains_wiring.mp hwiring.retains, hleft⟩
  -- made as often as deleted, since there are the same shaders as before
  have hcount := (Ledger.accounts_stages.run hlawful.legal hunused.fresh hbefore.nodup).2 id
  have hstages : (before.run (deeds said)).stages = before.stages := by
    rw [hleft]
    cases answer <;> rfl
  rw [hstages] at hcount
  omega

/-- The backend when a build begins, over the driver with its exchanges kept. -/
def State.listening (s : State σ) : State (List Exchange × σ) :=
  ⟨s.current, ([], s.driver)⟩

/-- What a build says to the driver and hears from it. -/
def talk (driver : Driver σ) (bundle : Bundle) (validate : Bool) (s : State σ) : List Exchange :=
  ((Build.build (backend driver.recording) bundle validate).run s.listening).2.driver.1

/-- **A build over any driver releases its objects.** It is only assumed that the numbers handed out
are not in use. A build that does not return was refused a block with a log whose line numbers are
too large for their word. -/
theorem build_releases (driver : Driver σ) (bundle : Bundle) (validate : Bool) (s : State σ)
    {before : Ledger} (hbefore : Standing s.current before)
    (hunused : Unused before (talk driver bundle validate s)) :
    (∀ answer, ((Build.build (backend driver.recording) bundle validate).run s.listening).1 =
        some answer → Releases before answer (talk driver bundle validate s)) ∧
      (((Build.build (backend driver.recording) bundle validate).run s.listening).1 = none →
        Build.Overflows bundle.blocks
          (Build.conversation (backend driver.recording) bundle validate s.listening)) := by
  obtain ⟨events, hrun, hpath, hmeets⟩ :=
    (@Build.build_records _ (backend driver.recording) bundle validate).run [] s.listening
  refine ⟨fun answer hanswer => ?_, fun hnone => ?_⟩
  -- it returned: its course, mirrored
  · rw [hanswer] at hmeets
    have hcourse : Build.Course bundle.blocks validate answer events := hmeets
    obtain ⟨said, hsaid, hmirrors⟩ := mirrors_path hpath hcourse.onlyBuilds hbefore.current_eq
    have htalk : talk driver bundle validate s = said := hsaid
    rw [htalk] at hunused ⊢
    exact (hmirrors hunused.fresh).releases hcourse hunused hbefore
  -- it did not: then it crashed, and there is one reason for that
  · obtain ⟨_, _, _, hrun', hcrash⟩ :=
      Build.build_crashesOnly (backend_returns driver.recording) bundle validate [] s.listening
    have hevents : Build.conversation (backend driver.recording) bundle validate s.listening = _ :=
      congrArg (fun run => run.2.1) hrun'
    rw [List.nil_append] at hevents
    exact hevents ▸ hcrash ((Prod.mk.inj (hrun.symm.trans hrun')).1 ▸ hnone)

/-- A driver that compiles everything and links nothing. -/
def refusingLinks : State ScriptedState :=
  { driver := { script := { links := false, log := [0x6E, 0x6F] } } }

/-- Two shaders and a program are made, and all of them are deleted when the program is refused. -/
theorem build_releases_refusingLinks :
    Standing refusingLinks.current {} ∧
      Unused {} (talk scripted Bundle.shortBundle true refusingLinks) ∧
      Releases {} (.error (.link ['n', 'o']))
        (talk scripted Bundle.shortBundle true refusingLinks) := by
  have hstanding : Standing refusingLinks.current {} :=
    ⟨Ledger.sound_empty, rfl, List.nodup_nil, nofun, nofun⟩
  have hunused : Unused {} (talk scripted Bundle.shortBundle true refusingLinks) :=
    ⟨by decide +kernel⟩
  have hanswer : ((Build.build (backend scripted.recording) Bundle.shortBundle true).run
      refusingLinks.listening).1 = some (.error (.link ['n', 'o'])) := by
    decide +kernel
  exact ⟨hstanding, hunused, (build_releases scripted Bundle.shortBundle true
    refusingLinks hstanding hunused).1 _ hanswer⟩

end Gl

end ShaderBundle
