import ShaderBundle.Proofs.Graphics.Bystanders
import ShaderBundle.Proofs.Graphics.Courses
import ShaderBundle.Proofs.Graphics.Visits

/-!
# What programs remember

A program keeps the answers to its lookups, so an answer may be used long after it was given. This
does no harm if names are found in the same places for as long as a program is neither linked nor
deleted, whatever else is done with the backend.

Uniforms and attributes are looked up in the same way, in tables of their own. What is said here of
one kind of name is said of both.

## What is assumed of the backend

`Lasting` says that the place of a name in a program changes only over a link or a deletion of that
very program. It is assumed of single operations and follows for conversations. It does not say that
a backend answers twice in the same way, or that it answers correctly, only that nothing else
interferes. The headless backend has this property (`Headless.backend_lasting`).

## The life of a program

`Life` is what a program can go through. It is built; then it is visited or something else happens,
in any order and number. What happens aside is any path of operations that neither links nor deletes
the program, so it includes builds, visits to other programs and their deletion. Along its life
three things are remembered: what the program is by now, what was said on visits to it, and these
visits. The claims relate the three.

* A name is known exactly if it was looked up (`Life.isSome_get?_iff`).
* For each name that is known the backend was asked once, and for no other one (`Life.count`).
* An answer that is given from memory is the one that the backend would give now (`Life.faithful`).

A name that the backend does not know is remembered as unknown and is not asked for again.

## Main definitions

* `KeepsLink`: a conversation neither links nor deletes a program.
* `Backend.Lasting`: locations change only when a program is linked or deleted.
* `Program.Faithful`: what a program remembers is what the backend would answer.
* `Program.Learns`: what a visit does to the tables of its program.
* `Program.Life`: the life of a program, from its build on.

## Main results

* `Program.visit_learns`: a visit asks for at most one name, and only for one that is not known.
* `Program.Faithful.of_path`, `Program.Learns.faithful`: programs stay faithful.
* `Program.Life.faithful`, `Program.Life.isSome_get?_iff`, `Program.Life.count`: at every time of
  its life, a program is faithful, knows the names that were looked up and has asked once for each
  of them.
-/

namespace ShaderBundle

variable {σ : Type} {backend : Backend σ} {id : ProgramId} {events : List Event}

/-- What two jobs in a row come to, if they end. -/
theorem Job.run_bind_eq_some {α β : Type} {job : Job σ α} {next : α → Job σ β} {s t : σ} {b : β}
    (h : (job >>= next).run s = (some b, t)) :
    ∃ a s', job.run s = (some a, s') ∧ (next a).run s' = (some b, t) := by
  rw [Job.run_bind] at h
  rcases hjob : job.run s with ⟨_ | a, s'⟩
  · simp [hjob] at h
  · rw [hjob] at h
    exact ⟨a, s', rfl, h⟩

/-! ### Locations that last -/

/-- The conversation neither links nor deletes the program. -/
def KeepsLink (id : ProgramId) (events : List Event) : Prop :=
  .call (.link id) ∉ events ∧ .call (.deleteProgram id) ∉ events

theorem keepsLink_append {first second : List Event} :
    KeepsLink id (first ++ second) ↔ KeepsLink id first ∧ KeepsLink id second := by
  simp only [KeepsLink, List.mem_append, not_or]
  tauto

theorem Ignores.keepsLink (h : Ignores id events) : KeepsLink id events :=
  ⟨fun hmem => h _ hmem (List.mem_singleton_self id), h.not_deleteProgram⟩

/-- On a visit, no program is linked or deleted. -/
theorem Visiting.keepsLink {program : ProgramId} (h : Visiting program events) (id : ProgramId) :
    KeepsLink id events := by
  refine ⟨fun hmem => ?_, h.not_deleteProgram id⟩
  obtain ⟨call, hcall, hvisits⟩ := h _ hmem
  obtain rfl := Event.call.inj hcall
  exact hvisits

/-- Where the names of a program are found changes only when the program is linked or deleted. -/
def Backend.Lasting (backend : Backend σ) : Prop :=
  ∀ {s t : σ} {events : List Event}, backend.Step s events t → ∀ {id : ProgramId},
    KeepsLink id events → ∀ (kind : NameKind) (name : Text),
      ((kind.locate backend id name).run t).1 = ((kind.locate backend id name).run s).1

/-- **Locations stay the same until the program is linked or deleted.** -/
theorem Backend.Lasting.of_path (h : backend.Lasting) {s t : σ} (hpath : backend.Path s events t)
    (hkeeps : KeepsLink id events) (kind : NameKind) (name : Text) :
    ((kind.locate backend id name).run t).1 = ((kind.locate backend id name).run s).1 := by
  induction hpath with
  | refl _ => rfl
  | step hstep _ ih =>
    obtain ⟨hfirst, hrest⟩ := keepsLink_append.mp hkeeps
    exact (ih hrest).trans (h hstep hfirst kind name)

namespace Program

variable {program later : Program} {s t : σ}

/-! ### Faithful programs -/

/-- What the program remembers is what the backend would answer. -/
def Faithful (backend : Backend σ) (s : σ) (program : Program) : Prop :=
  ∀ (kind : NameKind) (name : Text) (answer : Option Location),
    (kind.answers program).get? name = some answer →
      ((kind.locate backend program.id name).run s).1 = some answer

/-- A program that remembers nothing is faithful. -/
theorem faithful_of_forget (h : ∀ kind : NameKind, kind.answers program = {}) (s : σ) :
    program.Faithful backend s := by
  intro kind name answer hknown
  rw [h kind] at hknown
  cases hknown

/-- What is done aside does not make a program unfaithful. -/
theorem Faithful.of_path (h : program.Faithful backend s) (hlasting : backend.Lasting)
    (hpath : backend.Path s events t) (hkeeps : KeepsLink program.id events) :
    program.Faithful backend t := fun kind name answer hknown =>
  (hlasting.of_path hpath hkeeps kind name).trans (h kind name answer hknown)

/-! ### What visits ask -/

/-- The name that is looked up on a visit. -/
def Visit.asks : Visit → Option (NameKind × Text)
  | locateUniform name | set name _ => some (.uniform, name)
  | locateAttribute name => some (.attrib, name)
  | list | use => none

/-- No name is asked for. -/
def AsksNothing (events : List Event) : Prop :=
  ∀ (kind : NameKind) (id : ProgramId) (name : Text), .call (kind.call id name) ∉ events

theorem asksNothing_nil : AsksNothing [] :=
  fun _ _ _ hmem => nomatch hmem

theorem asksNothing_call {call : Call}
    (h : ∀ (kind : NameKind) (id : ProgramId) (name : Text), kind.call id name ≠ call) :
    AsksNothing [.call call] := fun kind id name hmem =>
  h kind id name (Event.call.inj (List.mem_singleton.mp hmem))

/-- What a visit that looks a name up, or none, does to the tables of its program. The answer to a
name that is not known yet is asked for, and kept. -/
inductive Learns (backend : Backend σ) (s : σ) (program : Program) :
    Option (NameKind × Text) → Program → List Event → Prop where
  | nothing {events : List Event} (hevents : AsksNothing events) :
    Learns backend s program none program events
  | known {kind : NameKind} {name : Text} {answer : Option Location}
    (h : (kind.answers program).get? name = some answer) {events : List Event}
    (hevents : AsksNothing events) : Learns backend s program (some (kind, name)) program events
  | asked {kind : NameKind} {name : Text} (h : (kind.answers program).get? name = none)
    {answer : Option Location}
    (hanswer : ((kind.locate backend program.id name).run s).1 = some answer) {events : List Event}
    (hevents : AsksNothing events) :
    Learns backend s program (some (kind, name)) (kind.remember program name answer)
      (.call (kind.call program.id name) :: events)

/-- What a recorded operation does whose answer is passed on with the program as it is. -/
theorem eq_of_run_recorded {α β : Type} {call : Call} {job : Job σ α} {pass : α → β}
    {answer : β} {log log' : List Event}
    (hrun : (job.recorded call (fun _ => []) >>= fun a => pure (pass a, program)).run (log, s) =
      (some (answer, later), log', t)) : program = later ∧ log' = log ++ [.call call] := by
  obtain ⟨a, ⟨log'', s'⟩, hjob, hrest⟩ := Job.run_bind_eq_some hrun
  rw [Job.run_recorded] at hjob
  rcases hplain : job.run s with ⟨_ | _, _⟩
  · simp [hplain] at hjob
  · simp only [hplain, Prod.mk.injEq] at hjob
    simp only [Job.run_pure, Prod.mk.injEq, Option.some.injEq] at hrest
    exact ⟨hrest.1.2, hrest.2.1.symm.trans hjob.2.1.symm⟩

/-- What a lookup that ends does. -/
theorem learns_of_run_lookup (kind : NameKind) {name : Text} {log log' : List Event}
    {answer : Option Location}
    (hrun : (kind.lookup backend.recording program name).run (log, s) =
      (some (answer, later), log', t)) : ∃ asked, log' = log ++ asked ∧
        ∀ events, AsksNothing events →
          Learns backend s program (some (kind, name)) later (asked ++ events) := by
  rw [NameKind.run_lookup] at hrun
  rcases hknown : (kind.answers program).get? name with _ | answer'
  · rw [hknown] at hrun
    rcases hlocate : (kind.locate backend program.id name).run s with ⟨_ | answer', _⟩
    · simp [hlocate] at hrun
    · simp only [hlocate, Prod.mk.injEq, Option.some.injEq] at hrun
      obtain ⟨⟨-, rfl⟩, rfl, -⟩ := hrun
      exact ⟨_, rfl, fun events hevents => .asked hknown (congrArg Prod.fst hlocate) hevents⟩
  · simp only [hknown, Prod.mk.injEq, Option.some.injEq] at hrun
    obtain ⟨⟨-, rfl⟩, rfl, -⟩ := hrun
    exact ⟨[], (List.append_nil _).symm, fun events hevents => .known hknown hevents⟩

/-- What writing a uniform does, if it ends. -/
theorem learns_of_run_set {name : Text} {value : UniformValue} {log log' : List Event}
    {written : Bool}
    (hrun : (program.set backend.recording name value).run (log, s) =
      (some (written, later), log', t)) : ∃ events, log' = log ++ events ∧
        Learns backend s program (some (.uniform, name)) later events := by
  obtain ⟨⟨found, program'⟩, ⟨log'', s'⟩, hfound, hrest⟩ := Job.run_bind_eq_some hrun
  obtain ⟨asked, rfl, hlearns⟩ := learns_of_run_lookup .uniform hfound
  cases found with
  | none =>
    simp only [Job.run_pure, Prod.mk.injEq, Option.some.injEq] at hrest
    obtain ⟨⟨-, rfl⟩, rfl, -⟩ := hrest
    exact ⟨asked, rfl, List.append_nil asked ▸ hlearns [] asksNothing_nil⟩
  | some location =>
    obtain ⟨rfl, rfl⟩ := eq_of_run_recorded hrest
    exact ⟨_, List.append_assoc log asked _,
      hlearns _ (asksNothing_call fun kind id name => by cases kind <;> nofun)⟩

/-- **A visit asks for at most one name, and only for one that is not known.** -/
theorem visit_learns (visit : Visit) {log log' : List Event} {answer : visit.Answer}
    (hrun : (visit.job backend.recording program).run (log, s) = (some (answer, later), log', t)) :
    ∃ events, log' = log ++ events ∧ Learns backend s program visit.asks later events := by
  cases visit with
  | locateUniform name =>
    obtain ⟨asked, hlog, hlearns⟩ := learns_of_run_lookup .uniform hrun
    exact ⟨asked, hlog, List.append_nil asked ▸ hlearns [] asksNothing_nil⟩
  | locateAttribute name =>
    obtain ⟨asked, hlog, hlearns⟩ := learns_of_run_lookup .attrib hrun
    exact ⟨asked, hlog, List.append_nil asked ▸ hlearns [] asksNothing_nil⟩
  | set name value => exact learns_of_run_set hrun
  | list =>
    obtain ⟨rfl, hlog⟩ := eq_of_run_recorded hrun
    exact ⟨_, hlog, .nothing (asksNothing_call fun kind id name => by cases kind <;> nofun)⟩
  | use =>
    obtain ⟨rfl, hlog⟩ := eq_of_run_recorded hrun
    exact ⟨_, hlog, .nothing (asksNothing_call fun kind id name => by cases kind <;> nofun)⟩

/-! ### What is learnt -/

variable {asked : Option (NameKind × Text)}

theorem Learns.id_eq (h : Learns backend s program asked later events) : later.id = program.id := by
  cases h with
  | nothing | known => rfl
  | asked => exact NameKind.id_remember ..

/-- **A faithful program stays faithful on a visit.** -/
theorem Learns.faithful (h : Learns backend s program asked later events)
    (hprogram : program.Faithful backend s)
    (hsame : ∀ (kind : NameKind) (name : Text), ((kind.locate backend program.id name).run t).1 =
      ((kind.locate backend program.id name).run s).1) : later.Faithful backend t := by
  intro kind name answer hknown
  rw [h.id_eq, hsame]
  cases h with
  | nothing | known => exact hprogram kind name answer hknown
  | asked _ hanswer =>
    rw [NameKind.get?_remember] at hknown
    split at hknown
    · next heq =>
      obtain ⟨rfl, rfl⟩ := heq
      exact hanswer.trans hknown
    · exact hprogram kind name answer hknown

/-- What is known behind a visit is what was known before, and the name that was looked up. -/
theorem Learns.isSome_get?_iff (h : Learns backend s program asked later events) (kind : NameKind)
    (name : Text) : ((kind.answers later).get? name).isSome ↔
      ((kind.answers program).get? name).isSome ∨ asked = some (kind, name) := by
  cases h with
  | nothing => simp
  | known hknown =>
    refine ⟨.inl, fun h => h.elim (fun hold => hold) fun heq => ?_⟩
    obtain ⟨rfl, rfl⟩ := Prod.mk.inj (Option.some.inj heq)
    exact Option.isSome_of_mem hknown
  | @asked kind' name' _ answer =>
    rw [NameKind.get?_remember, Option.some.injEq, Prod.mk.injEq]
    by_cases heq : kind = kind' ∧ name = name'
    · simp [heq]
    · rw [if_neg heq, eq_comm (a := kind'), eq_comm (a := name')]
      simp [heq]

/-- A question is put when its name becomes known. -/
theorem Learns.count (h : Learns backend s program asked later events) (kind : NameKind)
    (name : Text) : ((kind.answers program).get? name).isSome.toNat +
        events.count (.call (kind.call program.id name)) =
      ((kind.answers later).get? name).isSome.toNat := by
  have hnone : ∀ events, AsksNothing events →
      events.count (.call (kind.call program.id name)) = 0 := fun events hevents =>
    List.count_eq_zero.mpr (hevents kind program.id name)
  cases h with
  | nothing hevents | known _ hevents => rw [hnone _ hevents, Nat.add_zero]
  | @asked kind' name' hunknown answer _ rest hevents =>
    rw [NameKind.get?_remember, List.count_cons, hnone rest hevents]
    by_cases heq : kind = kind' ∧ name = name'
    · obtain ⟨rfl, rfl⟩ := heq
      simp [hunknown]
    · have hcall : ¬kind'.call program.id name' = kind.call program.id name := fun hcall =>
        heq ⟨(NameKind.call_inj.mp hcall).1.symm, (NameKind.call_inj.mp hcall).2.2.symm⟩
      simp [heq, hcall]

/-- What is said on a visit. -/
theorem path_of_visit (visit : Visit) {log log' : List Event} {answer : visit.Answer}
    (hrun : (visit.job backend.recording program).run (log, s) = (some (answer, later), log', t)) :
    ∃ events, log' = log ++ events ∧ backend.Path s events t ∧ Visiting program.id events := by
  obtain ⟨events, hrecords, hpath, hmeets⟩ := (visit_records visit program).run log s
  obtain ⟨hanswer, hrest⟩ := Prod.mk.inj (hrun.symm.trans hrecords)
  obtain ⟨hlog, rfl⟩ := Prod.mk.inj hrest
  rw [← hanswer] at hmeets
  exact ⟨events, hlog, hpath, hmeets.2.2⟩

/-! ### The life of a program -/

/-- **A program that was just built remembers nothing.** -/
theorem answers_of_course {blocks : List Block} {validate : Bool}
    (h : Build.Course blocks validate (.ok program) events) (kind : NameKind) :
    kind.answers program = {} := by
  cases h with
  | compiled _ hlink =>
    cases hlink
    cases kind <;> rfl

/-- The life of a program from its build on: what it is by now, the state of the backend, what was
said on visits to the program, and these visits. Between visits anything may be done with the
backend that neither links nor deletes the program. -/
inductive Life (backend : Backend σ) : Program → σ → List Event → List Visit → Prop where
  | built {bundle : Bundle} {validate : Bool} {s t : σ} {program : Program}
    (hbuild : (Build.build backend bundle validate).run s = (some (.ok program), t)) :
    Life backend program t [] []
  | aside {program : Program} {s t : σ} {said events : List Event} {visits : List Visit}
    (h : Life backend program s said visits) (hpath : backend.Path s events t)
    (hkeeps : KeepsLink program.id events) : Life backend program t said visits
  | visit {program later : Program} {s t : σ} {said said' : List Event} {visits : List Visit}
    (h : Life backend program s said visits) (visit : Visit) {answer : visit.Answer}
    (hrun : (visit.job backend.recording program).run (said, s) =
      (some (answer, later), said', t)) : Life backend later t said' (visits ++ [visit])

variable {said : List Event} {visits : List Visit}

/-- A program remembers nothing when its life begins. -/
theorem answers_of_build {bundle : Bundle} {validate : Bool}
    (hbuild : (Build.build backend bundle validate).run s = (some (.ok program), t))
    (kind : NameKind) : kind.answers program = {} := by
  obtain ⟨events, -, -, hmeets⟩ :=
    (@Build.build_records σ backend bundle validate).run [] s
  rw [hbuild] at hmeets
  exact answers_of_course hmeets kind

/-- **A program is faithful all its life**, if locations last. -/
theorem Life.faithful (h : Life backend program s said visits) (hlasting : backend.Lasting) :
    program.Faithful backend s := by
  induction h with
  | built hbuild => exact faithful_of_forget (answers_of_build hbuild) _
  | aside _ hpath hkeeps ih => exact ih.of_path hlasting hpath hkeeps
  | visit _ visit hrun ih =>
    obtain ⟨events, -, hlearns⟩ := visit_learns visit hrun
    obtain ⟨_, -, hpath, hvisiting⟩ := path_of_visit visit hrun
    exact hlearns.faithful ih (hlasting.of_path hpath (hvisiting.keepsLink _))

/-- **A program knows the names that were looked up.** -/
theorem Life.isSome_get?_iff (h : Life backend program s said visits) (kind : NameKind)
    (name : Text) : ((kind.answers program).get? name).isSome ↔
      ∃ visit ∈ visits, visit.asks = some (kind, name) := by
  induction h with
  | built hbuild =>
    rw [answers_of_build hbuild kind]
    simp [Answers.get?]
  | aside _ _ _ ih => exact ih
  | visit _ visit hrun ih =>
    obtain ⟨events, -, hlearns⟩ := visit_learns visit hrun
    rw [hlearns.isSome_get?_iff kind name, ih]
    simp [or_and_right, exists_or]

/-- **A program asks once for each name that it knows**, and never for another one. -/
theorem Life.count (h : Life backend program s said visits) (kind : NameKind) (name : Text) :
    said.count (.call (kind.call program.id name)) =
      ((kind.answers program).get? name).isSome.toNat := by
  induction h with
  | built hbuild =>
    rw [answers_of_build hbuild kind]
    rfl
  | aside _ _ _ ih => exact ih
  | visit _ visit hrun ih =>
    obtain ⟨events, rfl, hlearns⟩ := visit_learns visit hrun
    rw [List.count_append, hlearns.id_eq, ih, hlearns.count kind name]

end Program

end ShaderBundle
