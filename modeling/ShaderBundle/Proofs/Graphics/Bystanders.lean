import ShaderBundle.Proofs.Graphics.Settled

/-!
# Programs that stand by

Most of what is done with a backend is not about most of its programs. A program that stands by
stays what it is, and what the backend tells about it stays the same. A build that fails leaves all
programs as they were.

## What it means not to be about a program

A conversation is not about a program if no call names it and no reply hands its number out
(`Ignores`). A build is not about the programs that were there before it, a visit not about any
program but its own, and the end of one program not about the others. `Separates` is the property of
a backend that its answers about a program do not depend on such conversations.

For the headless backend this is shown by going through its operations: each of them changes the
record of one program at most, the one that it names. Stages and varyings are shared by all
programs, but no answer about a linked program is read off them.

## Main definitions

* `Backend.Separates`: what a backend tells about a program does not depend on what is not about it.

## Main results

* `Backend.Separates.of_path`: locations stay the same along a conversation about other programs.
* `Build.failed_course`: what is left behind a build that fails, crash or not.
* `Headless.backend_separates`: the headless backend keeps its programs apart.
-/

namespace ShaderBundle

variable {σ : Type} {id : ProgramId} {events : List Event}

/-! ### What a backend tells -/

/-- Where the names of a program are found does not depend on operations that are not about the
program. -/
structure Backend.Separates (backend : Backend σ) : Prop where
  /-- The locations of uniforms. -/
  uniforms : ∀ {s t : σ} {events : List Event}, backend.Step s events t →
    ∀ {id : ProgramId}, Ignores id events → ∀ name,
      ((backend.uniformLocation id name).run t).1 = ((backend.uniformLocation id name).run s).1
  /-- The locations of attributes. -/
  attributes : ∀ {s t : σ} {events : List Event}, backend.Step s events t →
    ∀ {id : ProgramId}, Ignores id events → ∀ name,
      ((backend.attributeLocation id name).run t).1 =
        ((backend.attributeLocation id name).run s).1

/-- **Locations stay the same along a conversation about other programs.** -/
theorem Backend.Separates.of_path {backend : Backend σ} (h : backend.Separates) {s t : σ}
    (hpath : backend.Path s events t) (hignores : Ignores id events) (name : Text) :
    ((backend.uniformLocation id name).run t).1 = ((backend.uniformLocation id name).run s).1 ∧
      ((backend.attributeLocation id name).run t).1 =
        ((backend.attributeLocation id name).run s).1 := by
  induction hpath with
  | refl _ => exact ⟨rfl, rfl⟩
  | step hstep _ ih =>
    obtain ⟨hfirst, hrest⟩ := ignores_append.mp hignores
    obtain ⟨huniform, hattribute⟩ := ih hrest
    exact ⟨huniform.trans (h.uniforms hstep hfirst name),
      hattribute.trans (h.attributes hstep hfirst name)⟩

/-! ### What there is -/

namespace Build

variable {backend : Backend σ} {blocks : List Block} {validate : Bool} {ledger : Ledger}

/-- **A build that fails leaves the programs as they were**, and it leaves no stage unless it
crashes. -/
theorem failed_course {answer : Option (Except BuildError Program)}
    (hmeets : Job.Meets (Course blocks validate) answer events)
    (hcrash : answer = none → IsCut backend blocks events)
    (hfailed : ∀ program, answer ≠ some (.ok program)) (hsound : ledger.Sound)
    (hfresh : ledger.Fresh events) :
    (ledger.run events).programs = ledger.programs ∧
      (ledger.run events).current = ledger.current ∧
      ((ledger.run events).stages = ledger.stages ∨ IsCut backend blocks events) ∧
      ∀ id ∈ ledger.programs, Ignores id events := by
  rcases answer with _ | error | program
  · obtain ⟨ids, hcut⟩ := hcrash rfl
    rw [(hcut.leads ledger).run_eq]
    exact ⟨rfl, rfl, .inr ⟨ids, hcut⟩, fun id _ => hcut.ignores id⟩
  · rw [(Course.leads hmeets hsound hfresh).1.run_eq]
    exact ⟨rfl, rfl, .inl rfl, fun id hid => Course.ignores hmeets hfresh hid⟩
  · exact absurd rfl (hfailed program)

end Build

/-! ### The headless backend -/

namespace Headless

/-- An operation that is not about a program leaves its record alone. -/
theorem program?_of_step {front : FrontEnd} {s t : State} (h : (backend front).Step s events t)
    (hignores : Ignores id events) : t.program? id = s.program? id := by
  obtain ⟨_, call, _, job, a, hop, ha, rfl, rfl⟩ := h.exists_answered (backend_returns front)
  -- the call does not name the program
  have hcall : id ∉ call.programs := hignores _ List.mem_cons_self
  cases hop with
  | compile stage source =>
    exact congrArg (List.find? _) (s.programs_compile front stage source)
  -- The new program has another number, and comes behind those that there were.
  | createProgram =>
    obtain rfl : .ok s.create.1 = a := Option.some.inj ha
    have hne : id ≠ s.create.1 := hignores _ (List.mem_cons_of_mem _ List.mem_cons_self)
    change (s.programs ++ [({ id := s.create.1 } : ProgramRecord)]).find? _ = _
    rw [List.find?_append, List.find?_singleton, if_neg (by simpa using Ne.symm hne),
      Option.or_none]
    rfl
  | attach program stage =>
    exact s.program?_modifyProgram_of_ne (fun _ => rfl) (List.ne_of_not_mem_cons hcall)
  | detach program stage =>
    exact s.program?_modifyProgram_of_ne (fun _ => rfl) (List.ne_of_not_mem_cons hcall)
  | link program =>
    change (s.link program).2.program? id = _
    rcases s.link_cases program with ⟨_, hlink⟩ | ⟨_, _, hlink⟩
    · rw [hlink]
    · rw [hlink]
      exact s.program?_modifyProgram_of_ne (fun _ => rfl) (List.ne_of_not_mem_cons hcall)
  | deleteProgram program =>
    exact s.program?_deleteProgram_of_ne (List.ne_of_not_mem_cons hcall)
  | setUniform program location value =>
    exact congrArg (List.find? _) (s.programs_setUniform program location value)
  | _ => rfl

/-- **The headless backend keeps its programs apart.** -/
theorem backend_separates (front : FrontEnd) : (backend front).Separates where
  uniforms h _ hignores name := by
    have hsame := program?_of_step h hignores
    simp only [backend, Job.run_step, State.uniformLocation, State.uniforms, hsame]
  attributes h _ hignores name := by
    have hsame := program?_of_step h hignores
    simp only [backend, Job.run_step, State.attributeLocation, hsame]

end Headless

end ShaderBundle
