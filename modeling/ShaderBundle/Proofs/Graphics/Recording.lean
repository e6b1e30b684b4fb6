import ShaderBundle.Proofs.Graphics.Keeps
import ShaderBundle.Proofs.Graphics.Ledger

/-!
# Recorded jobs

Any backend can be recorded: it does what it did, and the conversation with it is kept. A job then
has a set of courses, the conversations that it leads to when it ends. A job that crashes leaves the
beginning of a course, and there is a way on from there that hands nothing out: so what holds of the
beginnings of all courses also holds behind a crash.

## Recording instead of tracing

What a build says to its backend is not visible in its definition, which is a job over the state of
some backend. The recorded backend has a list of events beside that state, and every operation
appends its call and the replies to it. The build over the recorded backend is the same build; since
its operations do what they did, nothing is lost by speaking of it.

`Job.Records` is the interface to this. It relates a job over the backend to the job over the
recorded one, says that the answers and states are those, and that the events are one of some
courses. A caller has the courses as a relation between an answer and a list of events, and composes
them: `Records.bind` puts the courses of two jobs in a row, as relations are put in a row.

## Crashes

A job may stop halfway. Then the events are the beginning of a course, and a proof about courses
would have to be done again for beginnings. It need not, because of `Cut`: for every point at which
a job might stop there is a course with this beginning whose remaining replies hand nothing out. A
condition that holds along a whole conversation holds along its beginning, and one that concerns
what is handed out is not endangered by the rest. `Meets.elim` is this argument.

## Paths

Apart from courses, it is recorded that the states before and behind a job are connected by
operations of the backend (`Path`). An invariant that is kept by operations can be carried along a
path, which is how the facts about the headless backend and about drivers are obtained.

## Main definitions

* `Backend.Operation` lists the operations with their calls and replies.
* `Backend.recording` is a backend with its conversation kept.
* `Backend.Returns`: all operations end, `Backend.Steady`: all but compiling.
* `Backend.Path`: operations lead from one state to another, in a conversation.
* `Job.Records`: a job over the recorded backend does what a job over the backend does, and takes
  one of some courses.

## Main results

* `Job.Records.bind`: the courses of two jobs in a row.
* `Job.records_operation`: the course of a single operation.
* `Job.Records.bind_crashesOnly`: where two jobs in a row may crash.
-/

namespace ShaderBundle

variable {σ α β : Type}

/-- The reply that an answer makes. -/
def Reply.of (accepted : α → Reply) : Except Text α → Reply
  | .ok a => accepted a
  | .error log => .refused log

/-- The conversation over one call. -/
def exchange (call : Call) (replies : List Reply) : List Event :=
  .call call :: replies.map .reply

/-- The job with its call noted ahead of it and the replies to it behind it. -/
def Job.recorded (call : Call) (replies : α → List Reply) (job : Job σ α) :
    Job (List Event × σ) α :=
  OptionT.mk fun s =>
    match job.run s.2 with
    | (some a, t) => (some a, s.1 ++ exchange call (replies a), t)
    | (none, t) => (none, s.1 ++ exchange call [], t)

namespace Backend

/-- The backend with its conversation kept. -/
def recording (backend : Backend σ) : Backend (List Event × σ) where
  name := backend.name
  compile stage source := (backend.compile stage source).recorded (.compile stage)
    fun answer => [.of .stage answer]
  deleteStage stage := (backend.deleteStage stage).recorded (.deleteStage stage) fun _ => []
  createProgram := backend.createProgram.recorded .createProgram fun answer => [.of .program answer]
  attach program stage := (backend.attach program stage).recorded (.attach program stage)
    fun _ => []
  detach program stage := (backend.detach program stage).recorded (.detach program stage)
    fun _ => []
  link program := (backend.link program).recorded (.link program)
    fun answer => [.of (fun _ => .accepted) answer]
  validate program := (backend.validate program).recorded (.validate program)
    fun answer => [.of (fun _ => .accepted) answer]
  deleteProgram program := (backend.deleteProgram program).recorded (.deleteProgram program)
    fun _ => []
  uniformLocation program name := (backend.uniformLocation program name).recorded
    (.uniformLocation program name) fun _ => []
  attributeLocation program name := (backend.attributeLocation program name).recorded
    (.attributeLocation program name) fun _ => []
  activeUniforms program := (backend.activeUniforms program).recorded (.activeUniforms program)
    fun _ => []
  use program := (backend.use program).recorded (.use program) fun _ => []
  setUniform program location value := (backend.setUniform program location value).recorded
    (.setUniform program location value) fun _ => []

/-- The operations of a backend, each with its call and the replies that its answer makes. -/
inductive Operation (backend : Backend σ) :
    {α : Type} → Call → (α → List Reply) → Job σ α → Prop where
  | compile (stage : Stage) (source : Text) : Operation backend (.compile stage)
      (fun answer => [.of .stage answer]) (backend.compile stage source)
  | deleteStage (stage : StageId) : Operation backend (.deleteStage stage) (fun _ => [])
      (backend.deleteStage stage)
  | createProgram : Operation backend .createProgram (fun answer => [.of .program answer])
      backend.createProgram
  | attach (program : ProgramId) (stage : StageId) : Operation backend (.attach program stage)
      (fun _ => []) (backend.attach program stage)
  | detach (program : ProgramId) (stage : StageId) : Operation backend (.detach program stage)
      (fun _ => []) (backend.detach program stage)
  | link (program : ProgramId) : Operation backend (.link program)
      (fun answer => [.of (fun _ => .accepted) answer]) (backend.link program)
  | validate (program : ProgramId) : Operation backend (.validate program)
      (fun answer => [.of (fun _ => .accepted) answer]) (backend.validate program)
  | deleteProgram (program : ProgramId) : Operation backend (.deleteProgram program)
      (fun _ => []) (backend.deleteProgram program)
  | uniformLocation (program : ProgramId) (name : Text) :
    Operation backend (.uniformLocation program name) (fun _ => [])
      (backend.uniformLocation program name)
  | attributeLocation (program : ProgramId) (name : Text) :
    Operation backend (.attributeLocation program name) (fun _ => [])
      (backend.attributeLocation program name)
  | activeUniforms (program : ProgramId) : Operation backend (.activeUniforms program)
      (fun _ => []) (backend.activeUniforms program)
  | use (program : Option ProgramId) : Operation backend (.use program) (fun _ => [])
      (backend.use program)
  | setUniform (program : ProgramId) (location : Location) (value : UniformValue) :
    Operation backend (.setUniform program location value) (fun _ => [])
      (backend.setUniform program location value)

/-- Every operation comes to an end. -/
def Returns (backend : Backend σ) : Prop :=
  ∀ {α : Type} {call : Call} {replies : α → List Reply} {job : Job σ α},
    backend.Operation call replies job → job.Finishes

/-- Every operation comes to an end, but compiling may crash. -/
def Steady (backend : Backend σ) : Prop :=
  ∀ {α : Type} {call : Call} {replies : α → List Reply} {job : Job σ α},
    backend.Operation call replies job → (∀ stage, call ≠ .compile stage) → job.Finishes

theorem Returns.steady {backend : Backend σ} (h : backend.Returns) : backend.Steady :=
  fun hoperation _ => h hoperation

/-- One operation leads from one state to another, in a conversation. -/
inductive Step (backend : Backend σ) (s : σ) : List Event → σ → Prop where
  | answered {α : Type} {call : Call} {replies : α → List Reply} {job : Job σ α}
    (h : backend.Operation call replies job) {a : α} {t : σ} (hrun : job.run s = (some a, t)) :
    Step backend s (exchange call (replies a)) t
  | crashed {α : Type} {call : Call} {replies : α → List Reply} {job : Job σ α}
    (h : backend.Operation call replies job) {t : σ} (hrun : job.run s = (none, t)) :
    Step backend s (exchange call []) t

/-- Where every operation comes to an end, a step is one that was answered. -/
theorem Step.exists_answered {backend : Backend σ} {s t : σ} {events : List Event}
    (h : backend.Step s events t) (hreturns : backend.Returns) :
    ∃ (α : Type) (call : Call) (replies : α → List Reply) (job : Job σ α) (a : α),
      backend.Operation call replies job ∧ (job.run s).1 = some a ∧ t = (job.run s).2 ∧
        events = exchange call (replies a) := by
  cases h with
  | answered hop hrun => exact ⟨_, _, _, _, _, hop, by rw [hrun], by rw [hrun], rfl⟩
  | crashed hop hrun =>
    obtain ⟨a, ha⟩ := hreturns hop s
    rw [hrun] at ha
    cases ha

/-- Operations lead from one state to another, in a conversation. -/
inductive Path (backend : Backend σ) : σ → List Event → σ → Prop where
  | refl (s : σ) : Path backend s [] s
  | step {s t u : σ} {first rest : List Event} (h : backend.Step s first t)
    (hrest : Path backend t rest u) : Path backend s (first ++ rest) u

variable {backend : Backend σ}

theorem Path.trans {s t u : σ} {first second : List Event} (h : backend.Path s first t)
    (h' : backend.Path t second u) : backend.Path s (first ++ second) u := by
  induction h with
  | refl _ => exact h'
  | step hstep _ ih =>
    rw [List.append_assoc]
    exact .step hstep (ih h')

theorem Step.path {s t : σ} {events : List Event} (h : backend.Step s events t) :
    backend.Path s events t := by
  have hpath := Path.step h (.refl t)
  rwa [List.append_nil] at hpath

end Backend

namespace Job

/-! ### Courses

The relation of courses has the answer as its first argument, since which course a job takes shows
in its answer, and the next job depends on it. -/

/-- The conversation is the beginning of a course that hands nothing out from there on. -/
def Cut (R : α → List Event → Prop) (events : List Event) : Prop :=
  ∃ a rest, R a (events ++ rest) ∧ Quiet rest

/-- The conversation is a course for the answer, or the beginning of one behind a crash. -/
def Meets (R : α → List Event → Prop) : Option α → List Event → Prop
  | some a, events => R a events
  | none, events => Cut R events

variable {backend : Backend σ} {R R' : α → List Event → Prop} {S : α → β → List Event → Prop}

/-- A job over the recorded backend does what `plain` does over the backend, and the conversation is
one of the courses. -/
structure Records (backend : Backend σ) (R : α → List Event → Prop) (plain : Job σ α)
    (job : Job (List Event × σ) α) : Prop where
  /-- What it does. -/
  run : ∀ log s, ∃ events, job.run (log, s) = ((plain.run s).1, log ++ events, (plain.run s).2) ∧
    backend.Path s events (plain.run s).2 ∧ Meets R (plain.run s).1 events
  /-- Some course hands nothing out. -/
  cut_nil : Cut R []

theorem Meets.mono (h : ∀ a events, R a events → R' a events) {answer : Option α}
    {events : List Event} (hmeets : Meets R answer events) : Meets R' answer events := by
  cases answer with
  | some a => exact h a events hmeets
  | none =>
    obtain ⟨a, rest, hR, hquiet⟩ := hmeets
    exact ⟨a, rest, h a _ hR, hquiet⟩

/-- What holds of all courses and their beginnings holds of the conversation. -/
theorem Meets.elim {P : List Event → Prop} {answer : Option α} {events : List Event}
    (h : Meets R answer events) (hR : ∀ a events, R a events → P events)
    (hbeginning : ∀ first second, P (first ++ second) → P first) : P events := by
  cases answer with
  | some a => exact hR a events h
  | none =>
    obtain ⟨a, rest, hcourse, -⟩ := h
    exact hbeginning events rest (hR a _ hcourse)

variable {plain : Job σ α} {job : Job (List Event × σ) α}

theorem Records.mono (h : Records backend R plain job)
    (himp : ∀ a events, R a events → R' a events) :
    Records backend R' plain job where
  run log s := by
    obtain ⟨events, hrun, hpath, hmeets⟩ := h.run log s
    exact ⟨events, hrun, hpath, hmeets.mono himp⟩
  cut_nil := h.cut_nil.elim fun a ⟨rest, hR, hquiet⟩ => ⟨a, rest, himp a _ hR, hquiet⟩

theorem records_pure (a : α) :
    Records backend (fun b events => b = a ∧ events = []) (pure a) (pure a) where
  run log s := ⟨[], by simp, .refl s, rfl, rfl⟩
  cut_nil := ⟨a, [], ⟨rfl, rfl⟩, by simp [Quiet]⟩

/-- A job that only crashes has any courses, as long as one of them hands nothing out. -/
theorem records_crash (h : Cut R []) : Records backend R crash crash where
  run log s := ⟨[], by simp, .refl s, h⟩
  cut_nil := h

/-- The courses of two jobs in a row. -/
def Behind (R : α → List Event → Prop) (S : α → β → List Event → Prop) (b : β)
    (events : List Event) : Prop :=
  ∃ a first second, R a first ∧ S a b second ∧ events = first ++ second

theorem cut_behind {events : List Event} (h : Cut R events) (hnext : ∀ a, Cut (S a) []) :
    Cut (Behind R S) events := by
  obtain ⟨a, rest, hR, hrest⟩ := h
  obtain ⟨b, second, hS, hsecond⟩ := hnext a
  exact ⟨b, rest ++ second, ⟨a, events ++ rest, second, hR, hS, by simp⟩, hrest.append hsecond⟩

theorem Meets.behind {a : α} {answer : Option β} {first second : List Event} (h : R a first)
    (hmeets : Meets (S a) answer second) : Meets (Behind R S) answer (first ++ second) := by
  cases answer with
  | some b => exact ⟨a, first, second, h, hmeets, rfl⟩
  | none =>
    obtain ⟨b, rest, hS, hquiet⟩ := hmeets
    exact ⟨b, rest, ⟨a, first, second ++ rest, h, hS, by simp⟩, hquiet⟩

/-- **The courses of a job and the next are those of the one, then those of the other.** -/
theorem Records.bind {plainNext : α → Job σ β} {next : α → Job (List Event × σ) β}
    (h : Records backend R plain job)
    (hnext : ∀ a, Records backend (S a) (plainNext a) (next a)) :
    Records backend (Behind R S) (plain >>= plainNext) (job >>= next) where
  run log s := by
    obtain ⟨first, hrun, hpath, hmeets⟩ := h.run log s
    rw [run_bind, run_bind, hrun]
    rcases hplain : plain.run s with ⟨_ | a, t⟩
    · rw [hplain] at hpath hmeets
      exact ⟨first, rfl, hpath, cut_behind hmeets fun a => (hnext a).cut_nil⟩
    · rw [hplain] at hpath hmeets
      obtain ⟨second, hrun', hpath', hmeets'⟩ := (hnext a).run (log ++ first) t
      refine ⟨first ++ second, ?_, hpath.trans hpath', Meets.behind hmeets hmeets'⟩
      simp only [hrun', List.append_assoc]
  cut_nil := cut_behind h.cut_nil fun a => (hnext a).cut_nil

/-! ### Operations

All operations are recorded in the same way, `Operation` being the list of them. The lemmas here are
proved for any member of it, so that the next operation to be added needs a constructor and nothing
else. -/

/-- Some answer to an operation hands nothing out. -/
theorem exists_quiet {call : Call} {replies : α → List Reply}
    (h : backend.Operation call replies plain) : ∃ a, Quiet ((replies a).map .reply) := by
  cases h with
  | compile | createProgram => exact ⟨.error [], by simp [Quiet, Reply.of, Event.IsQuiet]⟩
  | link | validate => exact ⟨.error [], by simp [Quiet, Reply.of, Event.IsQuiet]⟩
  | uniformLocation | attributeLocation => exact ⟨none, by simp [Quiet]⟩
  | activeUniforms => exact ⟨[], by simp [Quiet]⟩
  | _ => exact ⟨(), by simp [Quiet]⟩

theorem run_recorded (call : Call) (replies : α → List Reply) (log : List Event) (s : σ) :
    (plain.recorded call replies).run (log, s) = match plain.run s with
      | (some a, t) => (some a, log ++ exchange call (replies a), t)
      | (none, t) => (none, log ++ exchange call [], t) := rfl

/-- The conversation over an operation without an answer is its call, whatever comes of it. -/
theorem log_run_recorded (call : Call) (act : Job σ Unit) (log : List Event) (s : σ) :
    ((act.recorded call fun _ => []).run (log, s)).2.1 = log ++ [.call call] := by
  rw [run_recorded]
  rcases act.run s with ⟨_ | _, t⟩ <;> rfl

/-- A recorded operation ends if the operation does. -/
theorem isSome_run_recorded {act : Job σ α} (h : act.Finishes) (call : Call)
    (replies : α → List Reply) (s : List Event × σ) :
    ((act.recorded call replies).run s).1.isSome := by
  obtain ⟨log, s⟩ := s
  obtain ⟨a, ha⟩ := h s
  rw [run_recorded]
  rcases hrun : act.run s with ⟨_ | _, t⟩
  · simp [hrun] at ha
  · rfl

/-- A recorded operation leads to the conversation over its call. -/
theorem records_operation {call : Call} {replies : α → List Reply}
    (h : backend.Operation call replies plain) :
    Records backend (fun a events => events = exchange call (replies a)) plain
      (plain.recorded call replies) where
  run log s := by
    rw [run_recorded]
    rcases hplain : plain.run s with ⟨_ | a, t⟩
    · obtain ⟨a, hquiet⟩ := exists_quiet h
      exact ⟨exchange call [], rfl, (Backend.Step.crashed h hplain).path, a, _, rfl, hquiet⟩
    · exact ⟨exchange call (replies a), rfl, (Backend.Step.answered h hplain).path, rfl⟩
  cut_nil := by
    obtain ⟨a, hquiet⟩ := exists_quiet h
    refine ⟨a, exchange call (replies a), rfl, fun event hevent => ?_⟩
    rcases List.mem_cons.mp hevent with rfl | hreply
    · trivial
    · exact hquiet event hreply

/-- The conversation over an operation without an answer, and then what the next job leads to. -/
theorem Records.after_operation {S : β → List Event → Prop} {call : Call} {act : Job σ Unit}
    (h : backend.Operation call (fun _ => []) act) {plainNext : Unit → Job σ β}
    {next : Unit → Job (List Event × σ) β}
    (hnext : Records backend S (plainNext ()) (next ())) :
    Records backend (fun b events => ∃ rest, S b rest ∧ events = .call call :: rest)
      (act >>= plainNext) ((act.recorded call fun _ => []) >>= next) := by
  refine ((records_operation h).bind (S := fun _ => S) fun _ => hnext).mono
    fun b events hevents => ?_
  obtain ⟨_, first, rest, rfl, hrest, rfl⟩ := hevents
  exact ⟨rest, hrest, rfl⟩

/-- The conversation over a job for each element of a list is what the jobs say, in order. -/
theorem records_forM {said : α → List Event} {plainAct : α → Job σ Unit}
    {act : α → Job (List Event × σ) Unit}
    (h : ∀ a, Records backend (fun _ events => events = said a) (plainAct a) (act a))
    (list : List α) :
    Records backend (fun _ events => events = list.flatMap said) (forM list plainAct)
      (forM list act) := by
  induction list with
  | nil => exact (records_pure ()).mono fun _ _ hevents => hevents.2
  | cons a rest ih =>
    rw [List.forM_cons, List.forM_cons, List.flatMap_cons]
    refine ((h a).bind fun _ => ih).mono fun _ events hevents => ?_
    obtain ⟨_, first, second, rfl, rfl, rfl⟩ := hevents
    rfl

/-! ### Jobs that end

Where a job can crash is asked separately. It is known for most parts of a build that they do not,
and for the others the place shows in the conversation, as a call without a reply or with a log that
cannot be read. -/

/-- Whatever makes the job crash shows in the conversation. -/
def CrashesOnly (Q : List Event → Prop) (job : Job (List Event × σ) α) : Prop :=
  ∀ log s, ∃ answer events t, job.run (log, s) = (answer, log ++ events, t) ∧
    (answer = none → Q events)

variable {Q : List Event → Prop}

theorem CrashesOnly.mono {Q' : List Event → Prop} {job : Job (List Event × σ) α}
    (h : CrashesOnly Q job) (himp : ∀ events, Q events → Q' events) : CrashesOnly Q' job := by
  intro log s
  obtain ⟨answer, events, t, hrun, hcrash⟩ := h log s
  exact ⟨answer, events, t, hrun, fun hanswer => himp events (hcrash hanswer)⟩

/-- A job that ends does not crash when it is recorded. -/
theorem Records.crashesOnly {plain : Job σ α} {job : Job (List Event × σ) α}
    (h : Records backend R plain job) (hplain : plain.Finishes) : CrashesOnly Q job := by
  intro log s
  obtain ⟨events, hrun, -, -⟩ := h.run log s
  obtain ⟨a, ha⟩ := hplain s
  exact ⟨_, events, _, hrun, fun hnone => by simp [ha] at hnone⟩

/-- **A job and the next crash where the one does, or where the other does behind a course of the
one.** -/
theorem Records.bind_crashesOnly {plain : Job σ α} {job : Job (List Event × σ) α}
    {next : α → Job (List Event × σ) β} {T : α → List Event → Prop}
    (h : Records backend R plain job) (hcrash : CrashesOnly Q job)
    (hnext : ∀ a, CrashesOnly (T a) (next a))
    (hQ : ∀ a first second, R a first → T a second → Q (first ++ second)) :
    CrashesOnly Q (job >>= next) := by
  intro log s
  obtain ⟨first, hrun, -, hmeets⟩ := h.run log s
  obtain ⟨answer, events, t, hrun', hcrash⟩ := hcrash log s
  rw [hrun] at hrun'
  obtain ⟨rfl, hrest⟩ := Prod.mk.inj hrun'
  obtain ⟨hlog, rfl⟩ := Prod.mk.inj hrest
  obtain rfl : first = events := List.append_cancel_left hlog
  rw [run_bind, hrun]
  -- it crashed in the first job, or behind a course of it
  rcases hplain : (plain.run s).1 with _ | a
  · exact ⟨none, first, _, rfl, fun _ => hcrash hplain⟩
  · rw [hplain] at hmeets
    obtain ⟨answer, second, u, hrun', hcrash'⟩ := hnext a (log ++ first) (plain.run s).2
    refine ⟨answer, first ++ second, u, ?_, fun hnone => hQ a first second hmeets (hcrash' hnone)⟩
    simp only [hrun', List.append_assoc]

end Job

namespace Build

variable {backend : Backend σ}

theorem release_finishes (h : backend.Steady) (compiled : List Compiled) :
    (release backend compiled).Finishes := by
  rw [release_eq_forM]
  refine Job.finishes_forM (fun c => ?_) compiled
  exact h (.deleteStage c.id) nofun

theorem attach_finishes (h : backend.Steady) (program : ProgramId) (compiled : List Compiled) :
    (attach backend program compiled).Finishes := by
  rw [attach_eq_forM]
  refine Job.finishes_forM (fun c => ?_) compiled
  exact h (.attach program c.id) nofun

theorem detach_finishes (h : backend.Steady) (program : ProgramId) (compiled : List Compiled) :
    (detach backend program compiled).Finishes := by
  rw [detach_eq_forM]
  refine Job.finishes_forM (fun c => ?_) compiled
  exact h (.detach program c.id) nofun

theorem consume_finishes (h : backend.Steady) (program : ProgramId) (compiled : List Compiled) :
    (consume backend program compiled).Finishes := by
  rw [consume_eq_forM]
  exact Job.finishes_forM (fun c =>
    (h (.detach program c.id) nofun).bind fun _ => h (.deleteStage c.id) nofun) compiled

theorem advise_finishes (h : ∀ program, (backend.validate program).Finishes) (program : ProgramId)
    (validate : Bool) : (advise backend program validate).Finishes := by
  cases validate with
  | true => exact (h program).bind fun _ => Job.finishes_pure ()
  | false => exact Job.finishes_pure ()

/-- Linking ends, accepted or not, since nothing is compiled any more. -/
theorem link_finishes (h : backend.Steady) (compiled : List Compiled) (validate : Bool) :
    (link backend compiled validate).Finishes := by
  refine (h .createProgram nofun).bind fun created => ?_
  cases created with
  | error log => exact (release_finishes h compiled).bind fun _ => Job.finishes_pure _
  | ok program =>
    refine (attach_finishes h program compiled).bind fun _ =>
      (h (.link program) nofun).bind fun linked => ?_
    cases linked with
    | error log =>
      exact (detach_finishes h program compiled).bind fun _ =>
        (release_finishes h compiled).bind fun _ =>
          (h (.deleteProgram program) nofun).bind fun _ => Job.finishes_pure _
    | ok _ =>
      exact (consume_finishes h program compiled).bind fun _ =>
        (advise_finishes (fun program => h (.validate program) nofun) program validate).bind
          fun _ => Job.finishes_pure _

end Build

end ShaderBundle
