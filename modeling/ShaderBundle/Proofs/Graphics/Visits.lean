import ShaderBundle.Graphics.Program
import ShaderBundle.Proofs.Graphics.Recording

/-!
# Visits to a program

What can be done with a linked program: it is asked for names, its uniforms are written and listed,
and it is made current. A visit speaks of that program only, and it neither makes nor deletes
anything.

Uniforms and attributes are looked up in the same way, in tables of their own. A lookup has one
equation for both kinds of names, and what is said of lookups here and later is said of a kind.

## A record that is passed along

A program is a record, with an id and what was learnt about its names. A visit takes a program and
gives it back, perhaps with one more name in a table. So a visit is a job with the program as part
of its answer, and `Visited` says what is known of that part: the id and the stages are what they
were.

## One kind of name at a time

The library has two lookups, with two tables and two operations of the backend. They have the same
text but for these, and a claim about lookups is a claim about both. `NameKind` names the two and
says which table, question and operation belongs to each; `NameKind.lookup_eq` is the equation that
holds of either. All later modules, those about the registry among them, go through it and have one
lemma and not two.

## Main definitions

* `Program.Visit` lists the visits, `Program.Visit.job` carries one out.
* `Visiting`: a conversation speaks of one program and leaves it as it is.
* `NameKind`: uniforms and attributes, each with its table, its question and its lookup.

## Main results

* `NameKind.lookup_eq`: a lookup answers from memory or asks the backend.
* `Program.visit_records`: the conversation over a visit is such a conversation.
* `Visiting.leads`: it is legal as long as there is the program.
-/

namespace ShaderBundle

variable {σ : Type} {backend : Backend σ}

namespace Program

/-- Something to be done with a program. -/
inductive Visit where
  /-- Looks a uniform up. -/
  | locateUniform (name : Text)
  /-- Looks an attribute up. -/
  | locateAttribute (name : Text)
  /-- Writes a uniform. -/
  | set (name : Text) (value : UniformValue)
  /-- Lists the uniforms. -/
  | list
  /-- Makes the program current. -/
  | use

/-- What comes of a visit. -/
def Visit.Answer : Visit → Type
  | locateUniform _ | locateAttribute _ => Option Location
  | set _ _ | use => Bool
  | list => List UniformInfo

/-- Carries a visit out. -/
def Visit.job (backend : Backend σ) : (visit : Visit) → Program → Job σ (visit.Answer × Program)
  | locateUniform name, program => program.locateUniform backend name
  | locateAttribute name, program => program.locateAttribute backend name
  | set name value, program => program.set backend name value
  | list, program => do return (← backend.activeUniforms program.id, program)
  | use, program => do
    backend.use (some program.id)
    return (true, program)

end Program

/-- The call speaks of no other program and leaves stages and programs as they are. -/
def Call.Visits (id : ProgramId) : Call → Prop
  | uniformLocation program _ | attributeLocation program _ | activeUniforms program
  | setUniform program _ _ | use (some program) => program = id
  | use none => True
  | _ => False

/-- The conversation is made of such calls. -/
def Visiting (id : ProgramId) (events : List Event) : Prop :=
  ∀ event ∈ events, ∃ call, event = .call call ∧ call.Visits id

variable {id : ProgramId}

theorem visiting_nil : Visiting id [] :=
  fun _ h => nomatch h

theorem visiting_exchange (call : Call) (h : call.Visits id) : Visiting id (exchange call []) :=
  fun _ hevent => ⟨call, List.mem_singleton.mp hevent, h⟩

theorem Visiting.append {first second : List Event} (h : Visiting id first)
    (h' : Visiting id second) : Visiting id (first ++ second) := fun event hevent =>
  (List.mem_append.mp hevent).elim (h event) (h' event)

theorem Visiting.of_append {first second : List Event} (h : Visiting id (first ++ second)) :
    Visiting id first :=
  fun event hevent => h event (List.mem_append_left _ hevent)

/-- A visit hands nothing out. -/
theorem Visiting.quiet {events : List Event} (h : Visiting id events) : Quiet events := by
  intro event hevent
  obtain ⟨call, rfl, -⟩ := h event hevent
  trivial

/-- A visit does not delete the program. -/
theorem Visiting.not_deleteProgram {events : List Event} (h : Visiting id events)
    (program : ProgramId) : .call (.deleteProgram program) ∉ events := by
  intro hmem
  obtain ⟨call, hcall, hvisits⟩ := h _ hmem
  obtain rfl := Event.call.inj hcall
  exact hvisits

/-- **A visit is legal as long as there is the program, and what may change is which is
current.** -/
theorem Visiting.leads {events : List Event} (h : Visiting id events) {ledger : Ledger}
    (hid : id ∈ ledger.programs) :
    ∃ current, ledger.Leads events { ledger with current } := by
  induction events generalizing ledger with
  | nil => exact ⟨ledger.current, Ledger.leads_nil⟩
  | cons event rest ih =>
    obtain ⟨call, rfl, hvisits⟩ := h event List.mem_cons_self
    have hrest : Visiting id rest := fun event hevent => h event (List.mem_cons_of_mem _ hevent)
    -- a single call: it names the program, and changes at most which one is current
    have hstep : ledger.Allows (.call call) ∧
        ∃ current, ledger.after (.call call) = { ledger with current } := by
      cases call with
      | use program =>
        refine ⟨⟨by simp [Call.stages], fun other hother => ?_⟩, program, rfl⟩
        cases program with
        | none => simp [Call.programs] at hother
        | some program =>
          obtain rfl : program = id := hvisits
          rwa [List.mem_singleton.mp hother]
      | uniformLocation program _ | attributeLocation program _ | activeUniforms program
      | setUniform program _ _ =>
        obtain rfl : program = id := hvisits
        refine ⟨⟨by simp [Call.stages], fun other hother => ?_⟩, ledger.current, rfl⟩
        rwa [List.mem_singleton.mp hother]
      | _ => exact hvisits.elim
    obtain ⟨hallows, current, hafter⟩ := hstep
    have hid' : id ∈ (ledger.after (.call call)).programs := by rwa [hafter]
    obtain ⟨last, hleads⟩ := ih hrest hid'
    refine ⟨last, .cons hallows ?_⟩
    rwa [hafter] at hleads ⊢

/-! ### Kinds of names -/

/-- What a name of a program may stand for. -/
inductive NameKind where
  | uniform
  | attrib
  deriving DecidableEq, Repr

namespace NameKind

/-- What a program remembers about names of a kind. -/
def answers : NameKind → Program → Answers
  | uniform, program => program.uniforms
  | attrib, program => program.attributes

/-- The program, with an answer remembered. -/
def remember : NameKind → Program → Text → Option Location → Program
  | uniform, program, name, answer =>
    { program with uniforms := program.uniforms.insert name answer }
  | attrib, program, name, answer =>
    { program with attributes := program.attributes.insert name answer }

/-- The question for a name. -/
def call : NameKind → ProgramId → Text → Call
  | uniform => .uniformLocation
  | attrib => .attributeLocation

/-- The operation that answers it. -/
def locate (backend : Backend σ) : NameKind → ProgramId → Text → Job σ (Option Location)
  | uniform => backend.uniformLocation
  | attrib => backend.attributeLocation

/-- The lookup of a name, from memory if it was looked up before. -/
def lookup (backend : Backend σ) : NameKind → Program → Text → Job σ (Option Location × Program)
  | uniform => Program.locateUniform backend
  | attrib => Program.locateAttribute backend

/-- What is said when a name is looked up. -/
def questions (kind : NameKind) (program : Program) (name : Text) : List Event :=
  match (kind.answers program).get? name with
  | some _ => []
  | none => [.call (kind.call program.id name)]

variable (kind other : NameKind) (program : Program) (name : Text)

@[simp] theorem id_remember (answer : Option Location) :
    (kind.remember program name answer).id = program.id := by
  cases kind <;> rfl

@[simp] theorem stages_remember (answer : Option Location) :
    (kind.remember program name answer).stages = program.stages := by
  cases kind <;> rfl

/-- What is known after an answer was remembered. -/
theorem get?_remember (answer : Option Location) (query : Text) :
    (other.answers (kind.remember program name answer)).get? query =
      if other = kind ∧ query = name then some answer else (other.answers program).get? query := by
  by_cases hname : query = name
  · subst hname
    cases kind <;> cases other <;> simp [answers, remember]
  · cases kind <;> cases other <;> simp [answers, remember, hname, Answers.get?_insert_of_ne]

theorem call_inj {kind other : NameKind} {id id' : ProgramId} {name name' : Text} :
    kind.call id name = other.call id' name' ↔ kind = other ∧ id = id' ∧ name = name' := by
  cases kind <;> cases other <;> simp [call]

/-- The question speaks of the program. -/
theorem visits_call (id : ProgramId) : (kind.call id name).Visits id := by
  cases kind <;> rfl

theorem operation_locate (id : ProgramId) :
    backend.Operation (kind.call id name) (fun _ => []) (kind.locate backend id name) := by
  cases kind with
  | uniform => exact .uniformLocation id name
  | attrib => exact .attributeLocation id name

theorem locate_recording (id : ProgramId) : kind.locate backend.recording id name =
    (kind.locate backend id name).recorded (kind.call id name) fun _ => [] := by
  cases kind <;> rfl

/-- **A lookup answers from memory or asks the backend**, and then the answer is remembered. What
follows is said of both kinds of names through this equation. -/
theorem lookup_eq (backend : Backend σ) : kind.lookup backend program name =
    match (kind.answers program).get? name with
    | some answer => pure (answer, program)
    | none => do
      let answer ← kind.locate backend program.id name
      return (answer, kind.remember program name answer) := by
  cases kind <;> rfl

/-- What a lookup comes to, what is said and what is changed. -/
theorem run_lookup (log : List Event) (s : σ) :
    (kind.lookup backend.recording program name).run (log, s) =
      match (kind.answers program).get? name, (kind.locate backend program.id name).run s with
      | some answer, _ => (some (answer, program), log, s)
      | none, (some answer, t) => (some (answer, kind.remember program name answer),
          log ++ [.call (kind.call program.id name)], t)
      | none, (none, t) => (none, log ++ [.call (kind.call program.id name)], t) := by
  rw [lookup_eq]
  cases (kind.answers program).get? name with
  | some answer => rfl
  | none =>
    simp only [Job.run_bind, locate_recording, Job.run_recorded]
    rcases (kind.locate backend program.id name).run s with ⟨_ | _, _⟩ <;> rfl

/-- What a lookup is answered with. -/
theorem fst_run_lookup (backend : Backend σ) (s : List Event × σ) :
    ((kind.lookup backend.recording program name).run s).1.map Prod.fst =
      match (kind.answers program).get? name with
      | some answer => some answer
      | none => ((kind.locate backend program.id name).run s.2).1 := by
  obtain ⟨log, s⟩ := s
  rw [run_lookup]
  cases (kind.answers program).get? name with
  | some answer => rfl
  | none => rcases (kind.locate backend program.id name).run s with ⟨_ | _, _⟩ <;> rfl

end NameKind

namespace Program

/-- What comes of a visit: the program with what it remembers, after such a conversation. -/
def Visited (program : Program) {α : Type} (answer : α × Program) (events : List Event) : Prop :=
  answer.2.id = program.id ∧ answer.2.stages = program.stages ∧ Visiting program.id events

/-- A lookup is a visit. -/
theorem lookup_records (kind : NameKind) (program : Program) (name : Text) :
    Job.Records backend program.Visited (kind.lookup backend program name)
      (kind.lookup backend.recording program name) := by
  rw [NameKind.lookup_eq, NameKind.lookup_eq, NameKind.locate_recording]
  split
  · refine (Job.records_pure _).mono fun answer events h => ?_
    obtain ⟨rfl, rfl⟩ := h
    exact ⟨rfl, rfl, visiting_nil⟩
  · refine ((Job.records_operation (kind.operation_locate name program.id)).bind fun _ =>
      Job.records_pure _).mono fun answer events h => ?_
    obtain ⟨_, _, _, rfl, ⟨rfl, rfl⟩, rfl⟩ := h
    exact ⟨kind.id_remember program name _, kind.stages_remember program name _,
      (visiting_exchange _ (kind.visits_call name program.id)).append visiting_nil⟩

theorem set_records (program : Program) (name : Text) (value : UniformValue) :
    Job.Records backend program.Visited (program.set backend name value)
      (program.set backend.recording name value) := by
  refine ((lookup_records .uniform program name).bind (S := fun found answer events =>
    answer.2 = found.2 ∧ Visiting found.2.id events) fun found => ?_).mono fun answer events h => ?_
  · obtain ⟨_ | location, program⟩ := found
    · refine (Job.records_pure _).mono fun answer events h => ?_
      obtain ⟨rfl, rfl⟩ := h
      exact ⟨rfl, visiting_nil⟩
    · refine (Job.Records.after_operation (.setUniform program.id location value)
        (Job.records_pure (true, program))).mono fun answer events h => ?_
      obtain ⟨_, ⟨rfl, rfl⟩, rfl⟩ := h
      exact ⟨rfl, visiting_exchange _ rfl⟩
  · obtain ⟨found, first, second, ⟨hid, hstages, hfirst⟩, ⟨hanswer, hsecond⟩, rfl⟩ := h
    rw [hid] at hsecond
    exact ⟨hanswer ▸ hid, hanswer ▸ hstages, hfirst.append hsecond⟩

/-- **A visit speaks of its program, which stays what it is but for what it remembers.** -/
theorem visit_records (visit : Visit) (program : Program) :
    Job.Records backend program.Visited (visit.job backend program)
      (visit.job backend.recording program) := by
  cases visit with
  | locateUniform name => exact lookup_records .uniform program name
  | locateAttribute name => exact lookup_records .attrib program name
  | set name value => exact set_records program name value
  | list =>
    refine ((Job.records_operation (.activeUniforms program.id)).bind fun _ =>
      Job.records_pure _).mono fun answer events h => ?_
    obtain ⟨_, _, _, rfl, ⟨rfl, rfl⟩, rfl⟩ := h
    exact ⟨rfl, rfl,
      (visiting_exchange (.activeUniforms program.id) rfl).append visiting_nil⟩
  | use =>
    refine (Job.Records.after_operation (.use (some program.id))
      (Job.records_pure (true, program))).mono fun answer events h => ?_
    obtain ⟨_, ⟨rfl, rfl⟩, rfl⟩ := h
    exact ⟨rfl, rfl, visiting_exchange (.use (some program.id)) rfl⟩

end Program

end ShaderBundle
