import Mathlib.Data.List.Nodup
import ShaderBundle.Graphics.Backend

/-!
# What a conversation with a backend comes to

A backend is called and replies. The conversation alone tells which stages and programs there are,
which stages are attached to which programs and which program is current, and whether a call names
something that does not exist any more.

## An account that assumes nothing

A ledger is computed from the calls and replies by rules that do not know the backend. If a backend
says that there is a new stage, then there is one; if it is told to delete a stage, then there is
not. Whether the backend keeps to this is not asked, and need not be: that a build never names a
deleted stage, or deletes what it has made, is a statement about the build. So the statements made
in these terms hold over every backend, including one that lies about everything but the numbers it
hands out.

## Two conditions along a conversation

`Legal` is for the caller: no call names what does not exist. `Fresh` is for the backend: no number
is handed out that is in use. The second is a hypothesis wherever the first is a conclusion, and it
cannot be dispensed with. Over a backend that hands out one number twice, deleting the first object
deletes the second.

Both are conditions on each event in view of what there is when it happens, and are instances of
`Along`, which has the lemmas about concatenation.

## Main definitions

* `Event` is a call or a reply, `Ledger` what there is behind a conversation.
* `Ledger.Legal`: no call names a stage or program that does not exist.
* `Ledger.Fresh`: no stage or program is handed out under a number that is in use.
* `Ledger.Leads`: a legal conversation leads from one ledger to another.

## Main results

* `Ledger.Sound.run`: behind a legal conversation only programs that exist have stages or are
  current.
* `Ledger.Accounts.run`: what came and is not there has gone.

## Implementation notes

Numbers may be handed out again once what they stood for is deleted. A call counts as soon as it is
made, also if the backend crashes over it.

Lists are used where sets are meant. Order and repetition matter for counting: an object that was
handed out and deleted several times under one number has come as often as it went, and this is what
is claimed of stages.
-/

namespace ShaderBundle

/-- What a backend replies to a call. Answers to questions about programs are not kept. -/
inductive Reply where
  /-- There is a new stage. -/
  | stage (id : StageId)
  /-- There is a new program. -/
  | program (id : ProgramId)
  /-- The call was carried out. -/
  | accepted
  /-- The call was refused. -/
  | refused (log : Text)
  deriving DecidableEq, Repr

/-- A part of a conversation. -/
inductive Event where
  | call (call : Call)
  | reply (reply : Reply)
  deriving DecidableEq, Repr

/-- The reply hands out nothing. -/
def Event.IsQuiet : Event → Prop
  | reply (.stage _) | reply (.program _) => False
  | _ => True

/-- The conversation hands out nothing. -/
def Quiet (events : List Event) : Prop :=
  ∀ event ∈ events, event.IsQuiet

theorem Quiet.append {first second : List Event} (h : Quiet first) (h' : Quiet second) :
    Quiet (first ++ second) := fun event hevent =>
  (List.mem_append.mp hevent).elim (h event) (h' event)

/-- The stages that a call names. -/
def Call.stages : Call → List StageId
  | deleteStage stage | attach _ stage | detach _ stage => [stage]
  | _ => []

/-- The programs that a call names. -/
def Call.programs : Call → List ProgramId
  | attach program _ | detach program _ | link program | validate program | deleteProgram program
  | uniformLocation program _ | attributeLocation program _ | activeUniforms program
  | use (some program) | setUniform program _ _ => [program]
  | _ => []

/-- An event is about a program: it names it or hands its number out. -/
def Event.Concerns (id : ProgramId) : Event → Prop
  | .call said => id ∈ said.programs
  | .reply (.program given) => id = given
  | .reply _ => False

/-- A conversation is not about a program. -/
def Ignores (id : ProgramId) (events : List Event) : Prop :=
  ∀ event ∈ events, ¬event.Concerns id

theorem ignores_append {id : ProgramId} {first second : List Event} :
    Ignores id (first ++ second) ↔ Ignores id first ∧ Ignores id second :=
  List.forall_mem_append

theorem Ignores.not_deleteProgram {id : ProgramId} {events : List Event} (h : Ignores id events) :
    .call (.deleteProgram id) ∉ events :=
  fun hmem => h _ hmem (show id ∈ [id] from List.mem_singleton_self id)

/-- What there is behind a conversation. -/
structure Ledger where
  /-- The stages. -/
  stages : List StageId := []
  /-- The programs. -/
  programs : List ProgramId := []
  /-- The attached stages. -/
  attached : List (ProgramId × StageId) := []
  /-- The current program. -/
  current : Option ProgramId := none
  deriving DecidableEq, Repr

namespace Ledger

/-! ### Along a conversation -/

/-- What there is behind one more part of the conversation. A program that is deleted loses its
stages and is not current. -/
def after (ledger : Ledger) : Event → Ledger
  | .reply (.stage id) => { ledger with stages := ledger.stages ++ [id] }
  | .reply (.program id) => { ledger with programs := ledger.programs ++ [id] }
  | .call (.deleteStage id) => { ledger with stages := ledger.stages.filter (· ≠ id) }
  | .call (.attach program stage) =>
    { ledger with attached := ledger.attached ++ [(program, stage)] }
  | .call (.detach program stage) =>
    { ledger with attached := ledger.attached.filter (· ≠ (program, stage)) }
  | .call (.deleteProgram id) =>
    { ledger with
      programs := ledger.programs.filter (· ≠ id)
      attached := ledger.attached.filter (·.1 ≠ id)
      current := if ledger.current = some id then none else ledger.current }
  | .call (.use program) => { ledger with current := program }
  | _ => ledger

/-- What there is behind a conversation. -/
def run (ledger : Ledger) (events : List Event) : Ledger :=
  events.foldl after ledger

@[simp] theorem run_nil (ledger : Ledger) : ledger.run [] = ledger := rfl

@[simp] theorem run_cons (ledger : Ledger) (event : Event) (rest : List Event) :
    ledger.run (event :: rest) = (ledger.after event).run rest := rfl

theorem run_append (ledger : Ledger) (first second : List Event) :
    ledger.run (first ++ second) = (ledger.run first).run second :=
  List.foldl_append

/-- Each part of a conversation meets a condition in view of what there is then. -/
def Along (P : Ledger → Event → Prop) : Ledger → List Event → Prop
  | _, [] => True
  | ledger, event :: rest => P ledger event ∧ Along P (ledger.after event) rest

instance (P : Ledger → Event → Prop) [∀ ledger event, Decidable (P ledger event)] :
    ∀ ledger events, Decidable (Along P ledger events)
  | _, [] => .isTrue trivial
  | ledger, event :: rest =>
    have := instDecidableAlong P (ledger.after event) rest
    inferInstanceAs (Decidable (P ledger event ∧ Along P (ledger.after event) rest))

variable {P : Ledger → Event → Prop} {ledger : Ledger} {first second : List Event}

@[simp] theorem along_nil : Along P ledger [] := trivial

@[simp] theorem along_cons {event : Event} {rest : List Event} :
    Along P ledger (event :: rest) ↔ P ledger event ∧ Along P (ledger.after event) rest := Iff.rfl

theorem along_append :
    Along P ledger (first ++ second) ↔ Along P ledger first ∧
      Along P (ledger.run first) second := by
  induction first generalizing ledger with
  | nil => simp
  | cons event rest ih => simp [ih, and_assoc]

/-- What holds along a conversation holds along its beginning. -/
theorem along_of_prefix (hbegins : first <+: second) (h : Along P ledger second) :
    Along P ledger first := by
  obtain ⟨rest, rfl⟩ := hbegins
  exact (along_append.mp h).1

/-! ### Conditions

What a call names exists, and what a reply hands out does not. Calls say nothing about what is
handed out, and replies name nothing, so either condition is trivial for one of the two kinds of
events. -/

/-- The stages and programs that a call names exist. -/
def Allows (ledger : Ledger) : Event → Prop
  | .call call =>
    (∀ stage ∈ call.stages, stage ∈ ledger.stages) ∧
      ∀ program ∈ call.programs, program ∈ ledger.programs
  | .reply _ => True

instance (ledger : Ledger) : (event : Event) → Decidable (ledger.Allows event)
  | .call call => inferInstanceAs (Decidable ((∀ stage ∈ call.stages, stage ∈ ledger.stages) ∧
      ∀ program ∈ call.programs, program ∈ ledger.programs))
  | .reply _ => .isTrue trivial

/-- A stage or program that is handed out has a number that is not in use. -/
def IsNew (ledger : Ledger) : Event → Prop
  | .reply (.stage id) => id ∉ ledger.stages
  | .reply (.program id) => id ∉ ledger.programs
  | _ => True

instance (ledger : Ledger) : (event : Event) → Decidable (ledger.IsNew event)
  | .reply (.stage id) => inferInstanceAs (Decidable (id ∉ ledger.stages))
  | .reply (.program id) => inferInstanceAs (Decidable (id ∉ ledger.programs))
  | .call _ | .reply .accepted | .reply (.refused _) => .isTrue trivial

/-- No call names a stage or program that does not exist. -/
abbrev Legal (ledger : Ledger) (events : List Event) : Prop :=
  Along Allows ledger events

/-- No stage or program is handed out under a number that is in use. -/
abbrev Fresh (ledger : Ledger) (events : List Event) : Prop :=
  Along IsNew ledger events

/-- A legal conversation leads from what there is before it to what there is behind it. -/
structure Leads (ledger : Ledger) (events : List Event) (behind : Ledger) : Prop where
  /-- The conversation is legal. -/
  legal : ledger.Legal events
  /-- This is what there is behind it. -/
  run_eq : ledger.run events = behind

theorem leads_nil : ledger.Leads [] ledger :=
  ⟨trivial, rfl⟩

theorem Leads.append {middle last : Ledger} (h : ledger.Leads first middle)
    (h' : middle.Leads second last) : ledger.Leads (first ++ second) last where
  legal := along_append.mpr ⟨h.legal, h.run_eq ▸ h'.legal⟩
  run_eq := by rw [run_append, h.run_eq, h'.run_eq]

theorem Leads.cons {event : Event} {rest : List Event} {last : Ledger}
    (hallows : ledger.Allows event) (h : (ledger.after event).Leads rest last) :
    ledger.Leads (event :: rest) last :=
  ⟨⟨hallows, h.legal⟩, h.run_eq⟩

/-- Nothing is handed out, so nothing has a number in use. -/
theorem fresh_of_quiet {events : List Event} (h : Quiet events) (ledger : Ledger) :
    ledger.Fresh events := by
  induction events generalizing ledger with
  | nil => trivial
  | cons event rest ih =>
    refine ⟨?_, ih (fun e he => h e (List.mem_cons_of_mem _ he)) _⟩
    have hquiet := h event List.mem_cons_self
    rcases event with call | (_ | _ | _ | _)
    · trivial
    · exact hquiet.elim
    · exact hquiet.elim
    · trivial
    · trivial

/-- Only programs that exist have stages or are current. -/
structure Sound (ledger : Ledger) : Prop where
  /-- A stage is attached to a program that exists. -/
  attached : ∀ pair ∈ ledger.attached, pair.1 ∈ ledger.programs
  /-- The current program exists. -/
  current : ∀ program, ledger.current = some program → program ∈ ledger.programs

theorem sound_empty : Sound {} :=
  ⟨by simp, by simp⟩

theorem Sound.after (h : ledger.Sound) {event : Event} (hallows : ledger.Allows event) :
    (ledger.after event).Sound := by
  rcases event with (_ | _ | _ | ⟨program, stage⟩ | _ | _ | _ | _ | _ | _ | _ | program | _) |
    (_ | _ | _ | _)
  case call.attach =>
    refine ⟨fun pair hpair => ?_, h.current⟩
    rcases List.mem_append.mp hpair with hold | hnew
    · exact h.attached pair hold
    · obtain rfl := List.mem_singleton.mp hnew
      exact hallows.2 program List.mem_cons_self
  case call.detach =>
    exact ⟨fun pair hpair => h.attached pair (List.mem_filter.mp hpair).1, h.current⟩
  -- The program goes with its stages, and if it was current, no program is.
  case call.deleteProgram =>
    refine ⟨fun pair hpair => ?_, fun other hother => ?_⟩
    · obtain ⟨hold, hne⟩ := List.mem_filter.mp hpair
      exact List.mem_filter.mpr ⟨h.attached pair hold, hne⟩
    · simp only [Ledger.after] at hother
      split at hother
      · simp at hother
      · rename_i hne
        refine List.mem_filter.mpr ⟨h.current other hother, decide_eq_true fun heq => hne ?_⟩
        rw [hother, heq]
  case call.use =>
    refine ⟨h.attached, fun other hother => ?_⟩
    obtain rfl : program = some other := hother
    exact hallows.2 other List.mem_cons_self
  -- One more program, and no more is said of it.
  case reply.program =>
    exact ⟨fun pair hpair => List.mem_append_left _ (h.attached pair hpair),
      fun other hother => List.mem_append_left _ (h.current other hother)⟩
  all_goals exact ⟨h.attached, h.current⟩

/-- **Behind a legal conversation only programs that exist have stages or are current.** -/
theorem Sound.run (h : ledger.Sound) {events : List Event} (hlegal : ledger.Legal events) :
    (ledger.run events).Sound := by
  induction events generalizing ledger with
  | nil => exact h
  | cons event rest ih => exact ih (h.after hlegal.1) hlegal.2

/-! ### Accounts

Stages and programs are counted in the same way. `Accounts` says what counting takes, a component of
the ledger without repetitions and two kinds of events that add to it and take from it; the
induction along a conversation is then done once. -/

/-- Taking an object off a list without repetitions, as it shows in how often each object occurs. -/
theorem count_eq_add_count_filter {α : Type} [DecidableEq α] {objects : List α} {id : α}
    (hnodup : objects.Nodup) (hid : id ∈ objects) (a : α) :
    objects.count a = (if id = a then 1 else 0) + (objects.filter (· ≠ id)).count a := by
  by_cases ha : id = a
  · subst ha
    have hgone : (objects.filter (· ≠ id)).count id = 0 := List.count_eq_zero.mpr (by simp)
    rw [List.count_eq_one_of_mem hnodup hid, if_pos rfl, hgone]
  · rw [if_neg ha, List.count_filter (by simpa using fun h => ha h.symm), Nat.zero_add]

/-- Objects are kept account of: they come with one kind of event and go with another. -/
structure Accounts {α : Type} [DecidableEq α] (read : Ledger → List α) (opened closed : α → Event) :
    Prop where
  /-- No object is there twice. -/
  nodup : ∀ {ledger event}, ledger.IsNew event → (read ledger).Nodup →
    (read (ledger.after event)).Nodup
  /-- What there was and what came is what went and what there is. -/
  count : ∀ {ledger event}, ledger.Allows event → (read ledger).Nodup → ∀ a,
    [event].count (opened a) + (read ledger).count a =
      [event].count (closed a) + (read (ledger.after event)).count a

/-- Stages come when they are compiled and go when they are deleted. -/
theorem accounts_stages :
    Accounts Ledger.stages (fun id => .reply (.stage id)) fun id => .call (.deleteStage id) where
  nodup {ledger event} hnew hnodup := by
    rcases event with (_ | id | _ | _ | _ | _ | _ | _ | _ | _ | _ | _ | _) | (id | _ | _ | _)
    case call.deleteStage => exact hnodup.filter _
    case reply.stage => simpa [after] using List.Nodup.concat hnew hnodup
    all_goals exact hnodup
  count {ledger event} hallows hnodup a := by
    rcases event with (_ | id | _ | _ | _ | _ | _ | _ | _ | _ | _ | _ | _) | (id | _ | _ | _)
    case call.deleteStage =>
      simp [after, List.count_singleton, beq_iff_eq,
        count_eq_add_count_filter hnodup (hallows.1 id List.mem_cons_self) a]
    case reply.stage => simp [after, List.count_append, List.count_singleton, Nat.add_comm]
    all_goals simp [after]

/-- Programs come when they are made and go when they are deleted. -/
theorem accounts_programs :
    Accounts Ledger.programs (fun id => .reply (.program id))
      fun id => .call (.deleteProgram id) where
  nodup {ledger event} hnew hnodup := by
    rcases event with (_ | _ | _ | _ | _ | _ | _ | id | _ | _ | _ | _ | _) | (_ | id | _ | _)
    case call.deleteProgram => exact hnodup.filter _
    case reply.program => simpa [after] using List.Nodup.concat hnew hnodup
    all_goals exact hnodup
  count {ledger event} hallows hnodup a := by
    rcases event with (_ | _ | _ | _ | _ | _ | _ | id | _ | _ | _ | _ | _) | (_ | id | _ | _)
    case call.deleteProgram =>
      simp [after, List.count_singleton, beq_iff_eq,
        count_eq_add_count_filter hnodup (hallows.2 id List.mem_cons_self) a]
    case reply.program => simp [after, List.count_append, List.count_singleton, Nat.add_comm]
    all_goals simp [after]

/-- **Along a legal conversation, objects that came and are not there have gone as often.** -/
theorem Accounts.run {α : Type} [DecidableEq α] {read : Ledger → List α} {opened closed : α → Event}
    (h : Accounts read opened closed) {events : List Event} (hlegal : ledger.Legal events)
    (hfresh : ledger.Fresh events) (hnodup : (read ledger).Nodup) :
    (read (ledger.run events)).Nodup ∧ ∀ a, events.count (opened a) + (read ledger).count a =
      events.count (closed a) + (read (ledger.run events)).count a := by
  induction events generalizing ledger with
  | nil => exact ⟨hnodup, fun _ => rfl⟩
  | cons event rest ih =>
    obtain ⟨hrest, hcount⟩ := ih hlegal.2 hfresh.2 (h.nodup hfresh.1 hnodup)
    refine ⟨hrest, fun a => ?_⟩
    have hstep := h.count hlegal.1 hnodup a
    have hahead := hcount a
    rw [List.count_singleton] at hstep
    rw [List.count_singleton] at hstep
    rw [List.count_cons, List.count_cons, run_cons]
    omega

end Ledger

end ShaderBundle
