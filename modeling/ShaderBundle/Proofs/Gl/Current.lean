import ShaderBundle.Gl.Backend
import ShaderBundle.Gl.Scripted
import ShaderBundle.Proofs.Graphics.Recording

/-!
# The program in use, as the backend and the driver have it

The OpenGL backend remembers which program it made current. It does not ask the driver, so what it
remembers is right only as long as the driver did what it was told: a driver makes a program current
only if the latest link of the program succeeded, and it leaves everything as it is otherwise.

A program may be linked again while it is in use. If that fails, the driver keeps using what was
linked before, but it does not go back to it: writing a uniform of another program then leaves that
other program in use, and the backend does not notice. This is the only way in which the two get out
of step.

## What a driver is taken to do

A driver is followed through what it has of its programs, a `Context`: which one is in use, which
exist with a successful latest link, and which were deleted while in use and wait for their end.
`Context.after` says what each request does to these three, as the standard of OpenGL has it, and
`Driver.Follows` that a driver does so. Whether a link succeeds is left open, request by request,
and nothing is said of locations, logs or errors. So the theorem is about every driver that treats
its programs that way.

## What a caller is taken to do

A `Way` is any sequence of calls, with one proviso: a program that is made current, or written to,
exists and its latest link succeeded. Without it the backend would be wrong after the first call,
and the fault would be the caller's. In particular a way may link the current program again, delete
it, or compile in between.

## Where writes go

The backend does not return where a write went, and a driver need not say either. `Driver.noting`
adds a note of each write with the program that was in use when it was made. The notes change
nothing else, and `Way.tracks_iff` compares them with what the calls asked for.

## The condition is exact

`Restorable` says of one call in one state that the program to go back to can be gone back to. If it
holds of all calls on a way, the two are in step at every point; if it fails at one, they are out of
step right behind it (`InStep.restorable_of_tracks`). `not_tracks_fallenBack` is a short run in
which it fails.

## Main definitions

* `Context` is what a driver has of programs, `Context.after` what a request makes of it.
* `Driver.Follows`: a driver treats its programs that way.
* `Driver.noting`: a driver with the writes to uniforms noted, each with the program it went to.
* `Way`: the calls on the way to a state, each in the state it was made in.

## Main results

* `Way.tracks_iff`: the backend and the driver are in step exactly if no write to another program is
  made while the current one cannot be gone back to.
* `not_tracks_fallenBack`: a run in which one is.

## Implementation notes

A program that is deleted while it is in use exists until it is not. The backend never leaves one in
use, but a driver that is out of step with it might.

Most operations neither make a program current nor write. They are dealt with at once: requests of
the plain kind keep what is of interest (`Undisturbed`), and an operation that makes only plain
requests is undisturbed.
-/

namespace ShaderBundle.Gl

variable {σ α β : Type}

/-! ### Drivers and programs

The recursion here is that of requests, one after the other. Each of the definitions changes one of
the three components, and `Clean` is the state in which the third one does not matter. -/

/-- What a driver has of programs. -/
structure Context where
  /-- The program in use, or zero. -/
  bound : Nat := 0
  /-- The programs that exist and whose latest link succeeded. -/
  linked : Nat → Bool := fun _ => false
  /-- The programs that were deleted while they were in use. -/
  doomed : Nat → Bool := fun _ => false

namespace Context

variable {context : Context} {n : Nat}

/-- The program in use. -/
def current (context : Context) : Option ProgramId :=
  if context.bound = 0 then none else some ⟨context.bound⟩

/-- A program that can be made current. -/
def Usable (context : Context) (program : ProgramId) : Prop :=
  program.raw ≠ 0 ∧ context.linked program.raw = true

/-- No program is in use any more. One that was deleted meanwhile is gone. -/
def leave (context : Context) : Context where
  bound := 0
  linked := fun n => context.linked n && !(n == context.bound && context.doomed n)
  doomed := fun n => context.doomed n && n != context.bound

/-- A program is made current, unless it cannot be. Zero stands for none. -/
def use (context : Context) (n : Nat) : Context :=
  if n = context.bound then context
  else if n = 0 ∨ context.linked n = true then { context.leave with bound := n }
  else context

/-- A program is deleted, which takes effect when it is not in use any more. -/
def delete (context : Context) (n : Nat) : Context :=
  if n = 0 then context
  else if n = context.bound then { context with doomed := fun m => m == n || context.doomed m }
  else { context with linked := fun m => m != n && context.linked m }

/-- What a request makes of the programs. Whether a link is accepted is not up to the request. -/
def after (context : Context) (accepted : Bool) : Request → Context
  | .useProgram n => context.use n
  | .deleteProgram n => context.delete n
  | .linkProgram n =>
    { context with linked := fun m => if m = n then accepted else context.linked m }
  | _ => context

/-- Nothing is deleted while it is in use. -/
def Clean (context : Context) : Prop :=
  ∀ n, context.doomed n = false

theorem Clean.leave (h : context.Clean) : context.leave = { context with bound := 0 } := by
  have hdoomed : context.doomed = fun _ => false := funext h
  simp [Context.leave, hdoomed]

theorem Clean.use (h : context.Clean) (n : Nat) :
    context.use n =
      if n = 0 ∨ context.linked n = true then { context with bound := n } else context := by
  rw [Context.use, h.leave]
  split
  case isTrue hsame => rw [hsame, ite_self]
  case isFalse => rfl

end Context

/-- A driver treats its programs as the standard has it: `view` is what it has of them. -/
structure Driver.Follows (driver : Driver σ) (view : σ → Context) : Prop where
  /-- Requests do to programs what they say. -/
  after : ∀ (request : Request) (s : σ), ∃ accepted,
    view (driver.answer request s).2 = (view s).after accepted request
  /-- The status of a link tells whether it succeeded. -/
  status : ∀ (n : Nat) (s : σ), (driver.answer (.linkStatus n) s).1 = (view s).linked n

/-! ### Noting writes

A note is taken when the request is made. So a write between two changes of the program in use is
noted with the program of that moment, which neither the call nor the backend states. -/

/-- A value for a uniform, and the program it goes to. -/
structure Write where
  /-- The number of the program. -/
  program : Nat
  /-- The location in it. -/
  location : Location
  /-- The value. -/
  value : UniformValue
  deriving DecidableEq, Repr

/-- The write that a request makes while a program is in use. -/
def Request.writes (bound : Nat) : Request → List Write
  | .writeUniform location value => [⟨bound, location, value⟩]
  | _ => []

/-- A driver with its writes noted, each with the program in use when it was made. -/
def Driver.noting (driver : Driver σ) (view : σ → Context) : Driver (List Write × σ) where
  answer request s :=
    let (answer, after) := driver.answer request s.2
    (answer, s.1 ++ request.writes (view s.2).bound, after)

/-- The backend over a driver with its writes noted. -/
abbrev Noted (σ : Type) := State (List Write × σ)

/-- What the driver has of programs. -/
def State.programs (view : σ → Context) (s : Noted σ) : Context :=
  view s.driver.2

/-- The writes so far. -/
def State.writes (s : Noted σ) : List Write :=
  s.driver.1

/-- The backend takes the program in use for the current one. -/
def State.Tracks (view : σ → Context) (s : Noted σ) : Prop :=
  s.current = (s.programs view).current

variable {driver : Driver σ} {view : σ → Context} {s t : Noted σ}

/-! ### Requests that leave the program in use

`Undisturbed` is reflexive and transitive, and relates the state behind a job to the state before
it, so lemmas about jobs compose along their binds. -/

/-- Requests that neither put a program in use, nor delete one, nor write a uniform. -/
def Request.IsPlain : Request → Bool
  | .useProgram _ | .deleteProgram _ | .writeUniform _ _ => false
  | _ => true

/-- One state is like another as far as current programs and writes go. -/
structure Undisturbed (view : σ → Context) (s t : Noted σ) : Prop where
  /-- The backend has the same program for current. -/
  current : t.current = s.current
  /-- The driver has the same program in use. -/
  bound : (t.programs view).bound = (s.programs view).bound
  /-- The same programs were deleted while in use. -/
  doomed : (t.programs view).doomed = (s.programs view).doomed
  /-- Nothing was written. -/
  writes : t.writes = s.writes

theorem Undisturbed.refl (s : Noted σ) : Undisturbed view s s :=
  ⟨rfl, rfl, rfl, rfl⟩

theorem Undisturbed.tracks_congr (h : Undisturbed view s t) : t.Tracks view ↔ s.Tracks view := by
  rw [State.Tracks, State.Tracks, h.current, Context.current, Context.current, h.bound]

theorem Context.after_of_isPlain {request : Request} (h : request.IsPlain = true)
    (accepted : Bool) (context : Context) :
    (context.after accepted request).bound = context.bound ∧
      (context.after accepted request).doomed = context.doomed := by
  cases request
  case useProgram | deleteProgram | writeUniform => cases h
  all_goals exact ⟨rfl, rfl⟩

theorem Request.writes_of_isPlain {request : Request} (h : request.IsPlain = true) (bound : Nat) :
    request.writes bound = [] := by
  cases request
  case useProgram | deleteProgram | writeUniform => cases h
  all_goals rfl

theorem ask_keeps (hfollows : driver.Follows view) {request : Request}
    (h : request.IsPlain = true) (s : Noted σ) :
    (ask (driver.noting view) request).Keeps (Undisturbed view s) := by
  refine Job.keeps_step fun t ht => ?_
  obtain ⟨accepted, hafter⟩ := hfollows.after request t.driver.2
  obtain ⟨hbound, hdoomed⟩ := Context.after_of_isPlain h accepted (t.programs view)
  refine ⟨ht.current, ?_, ?_, ?_⟩
  · rw [← ht.bound, ← hbound]
    exact congrArg Context.bound hafter
  · rw [← ht.doomed, ← hdoomed]
    exact congrArg Context.doomed hafter
  · change t.writes ++ request.writes (t.programs view).bound = _
    rw [request.writes_of_isPlain h, List.append_nil, ht.writes]

theorem order_keeps (hfollows : driver.Follows view) {request : Request}
    (h : request.IsPlain = true) (s : Noted σ) :
    (order (driver.noting view) request).Keeps (Undisturbed view s) :=
  (ask_keeps hfollows h s).bind fun _ => Job.keeps_pure ()

theorem programLog_keeps (hfollows : driver.Follows view) (program : Nat) (s : Noted σ) :
    (programLog (driver.noting view) program).Keeps (Undisturbed view s) :=
  (ask_keeps hfollows rfl s).bind fun _ => (ask_keeps hfollows rfl s).bind fun _ =>
    Job.keeps_pure _

theorem shaderLog_keeps (hfollows : driver.Follows view) (shader : Nat) (s : Noted σ) :
    (shaderLog (driver.noting view) shader).Keeps (Undisturbed view s) :=
  (ask_keeps hfollows rfl s).bind fun _ => (ask_keeps hfollows rfl s).bind fun _ =>
    Job.keeps_pure _

theorem compile_keeps (hfollows : driver.Follows view) (stage : Stage) (source : Text)
    (s : Noted σ) : (compile (driver.noting view) stage source).Keeps (Undisturbed view s) := by
  rw [compile]
  split
  · exact Job.keeps_pure _
  · refine (ask_keeps hfollows rfl s).bind fun shader => ?_
    split
    · exact Job.keeps_pure _
    · refine (order_keeps hfollows rfl s).bind fun _ => (order_keeps hfollows rfl s).bind fun _ =>
        (ask_keeps hfollows rfl s).bind fun compiled => ?_
      split
      · exact Job.keeps_pure _
      · exact (shaderLog_keeps hfollows _ s).bind fun _ => (order_keeps hfollows rfl s).bind
          fun _ => Job.keeps_pure _

theorem createProgram_keeps (hfollows : driver.Follows view) (s : Noted σ) :
    (createProgram (driver.noting view)).Keeps (Undisturbed view s) :=
  (ask_keeps hfollows rfl s).bind fun _ => Job.keeps_pure _

theorem attempt_keeps (hfollows : driver.Follows view) (program : ProgramId) {request : Request}
    (h : request.IsPlain = true) {status : Job (Noted σ) Bool} (s : Noted σ)
    (hstatus : status.Keeps (Undisturbed view s)) :
    (attempt (driver.noting view) program request status).Keeps (Undisturbed view s) := by
  refine (order_keeps hfollows h s).bind fun _ => hstatus.bind fun accepted => ?_
  split
  · exact Job.keeps_pure _
  · exact (programLog_keeps hfollows program.raw s).bind fun _ => Job.keeps_pure _

theorem uniformLocation_keeps (hfollows : driver.Follows view) (program : ProgramId) (name : Text)
    (s : Noted σ) :
    (uniformLocation (driver.noting view) program name).Keeps (Undisturbed view s) := by
  rw [uniformLocation]
  split
  · exact Job.keeps_pure _
  · exact (ask_keeps hfollows rfl s).bind fun _ => Job.keeps_pure _

theorem attributeLocation_keeps (hfollows : driver.Follows view) (program : ProgramId)
    (name : Text) (s : Noted σ) :
    (attributeLocation (driver.noting view) program name).Keeps (Undisturbed view s) := by
  rw [attributeLocation]
  split
  · exact Job.keeps_pure _
  · exact (ask_keeps hfollows rfl s).bind fun _ => Job.keeps_pure _

theorem activeUniformsFrom_keeps (hfollows : driver.Follows view) (program : ProgramId)
    (room left index : Nat) (s : Noted σ) :
    (activeUniformsFrom (driver.noting view) program room left index).Keeps
      (Undisturbed view s) := by
  induction left generalizing index with
  | zero => exact Job.keeps_pure _
  | succ left ih =>
    have hone : (activeUniform (driver.noting view) program index room).Keeps
        (Undisturbed view s) :=
      (ask_keeps hfollows rfl s).bind fun _ => (uniformLocation_keeps hfollows program _ s).bind
        fun _ => Job.keeps_pure _
    exact hone.bind fun _ => (ih (index + 1)).bind fun _ => Job.keeps_pure _

theorem activeUniforms_keeps (hfollows : driver.Follows view) (program : ProgramId)
    (s : Noted σ) :
    (activeUniforms (driver.noting view) program).Keeps (Undisturbed view s) :=
  (ask_keeps hfollows rfl s).bind fun _ => (ask_keeps hfollows rfl s).bind fun _ =>
    activeUniformsFrom_keeps hfollows program _ _ _ s

/-! ### Orders -/

/-- The state behind an order. -/
def State.ordered (driver : Driver σ) (view : σ → Context) (request : Request) (s : Noted σ) :
    Noted σ :=
  ((order (driver.noting view) request).run s).2

@[simp] theorem current_ordered (request : Request) (s : Noted σ) :
    (s.ordered driver view request).current = s.current := rfl

theorem writes_ordered (request : Request) (s : Noted σ) :
    (s.ordered driver view request).writes =
      s.writes ++ request.writes (s.programs view).bound := rfl

theorem programs_ordered_use (hfollows : driver.Follows view) (n : Nat) (s : Noted σ) :
    (s.ordered driver view (.useProgram n)).programs view = (s.programs view).use n :=
  (hfollows.after (.useProgram n) s.driver.2).elim fun _ h => h

theorem programs_ordered_delete (hfollows : driver.Follows view) (n : Nat) (s : Noted σ) :
    (s.ordered driver view (.deleteProgram n)).programs view = (s.programs view).delete n :=
  (hfollows.after (.deleteProgram n) s.driver.2).elim fun _ h => h

theorem programs_ordered_write (hfollows : driver.Follows view) (location : Location)
    (value : UniformValue) (s : Noted σ) :
    (s.ordered driver view (.writeUniform location value)).programs view = s.programs view :=
  (hfollows.after (.writeUniform location value) s.driver.2).elim fun _ h => h

theorem programs_ordered_error (hfollows : driver.Follows view) (s : Noted σ) :
    (s.ordered driver view .error).programs view = s.programs view :=
  (hfollows.after .error s.driver.2).elim fun _ h => h

/-! ### Links

A link decides whether a program can be made current. The backend reports what the driver says of
the status, and for a driver that follows its programs that is the truth. -/

/-- Requests about programs that only ask. -/
theorem ask_keeps_programs (hfollows : driver.Follows view) {request : Request}
    (h : ∀ (accepted : Bool) (context : Context), context.after accepted request = context)
    (context : Context) :
    (ask (driver.noting view) request).Keeps fun t => t.programs view = context := by
  refine Job.keeps_step fun t ht => ?_
  obtain ⟨accepted, hafter⟩ := hfollows.after request t.driver.2
  rw [h] at hafter
  exact hafter.trans ht

theorem programLog_keeps_programs (hfollows : driver.Follows view) (program : Nat)
    (context : Context) :
    (programLog (driver.noting view) program).Keeps fun t => t.programs view = context :=
  (ask_keeps_programs hfollows (fun _ _ => rfl) context).bind fun _ =>
    (ask_keeps_programs hfollows (fun _ _ => rfl) context).bind fun _ => Job.keeps_pure _

/-- What an attempt comes to: the status is asked behind the order, and the log behind a refusal. -/
theorem run_attempt (driver : Driver σ) (program : ProgramId) (request : Request)
    (status : Job (State σ) Bool) (s : State σ) :
    (attempt driver program request status).run s =
      match status.run ((order driver request).run s).2 with
      | (some true, t) => (some (.ok ()), t)
      | (some false, t) => (((programLog driver program.raw).run t).1.map .error,
          ((programLog driver program.raw).run t).2)
      | (none, t) => (none, t) := by
  have horder : (order driver request).run s = (some (), ((order driver request).run s).2) := rfl
  unfold attempt
  rw [Job.run_bind, horder]
  simp only [Job.run_bind]
  rcases status.run ((order driver request).run s).2 with ⟨_ | _ | _, t⟩
  · rfl
  · simp only [Bool.false_eq_true, if_false, Job.run_bind]
    rcases (programLog driver program.raw).run t with ⟨_ | _, u⟩ <;> rfl
  · rfl

/-- An attempt whose status tells whether a program is linked comes to what the program is then. -/
theorem attempt_eq_ok_iff (hfollows : driver.Follows view) (program : ProgramId)
    (request : Request) {status : Job (Noted σ) Bool}
    (hstatus : ∀ t, (status.run t).1 = some ((t.programs view).linked program.raw) ∧
      (status.run t).2.programs view = t.programs view) (s : Noted σ) :
    ((attempt (driver.noting view) program request status).run s).1 = some (.ok ()) ↔
      (((attempt (driver.noting view) program request status).run s).2.programs view).linked
        program.raw = true := by
  -- the status that is read is that of the state behind the order
  obtain ⟨hanswer, hsame⟩ := hstatus ((order (driver.noting view) request).run s).2
  rw [run_attempt]
  rcases hrun : status.run ((order (driver.noting view) request).run s).2 with ⟨answer, t⟩
  rw [hrun] at hanswer hsame
  rw [← hsame] at hanswer
  obtain rfl : answer = some ((t.programs view).linked program.raw) := hanswer
  cases hlinked : (t.programs view).linked program.raw with
  | true => exact iff_of_true rfl hlinked
  | false =>
    -- reading the log changes nothing about programs
    have hlog := programLog_keeps_programs hfollows program.raw (t.programs view) t rfl
    refine iff_of_false ?_ ?_
    · cases ((programLog (driver.noting view) program.raw).run t).1 <;> simp
    · simp only [hlog, hlinked]
      exact Bool.false_ne_true

/-- **A link is accepted exactly if the program can be made current from then on.** -/
theorem run_link_eq_ok_iff (hfollows : driver.Follows view) (program : ProgramId) (s : Noted σ) :
    (((backend (driver.noting view)).link program).run s).1 = some (.ok ()) ↔
      ((((backend (driver.noting view)).link program).run s).2.programs view).linked program.raw =
        true := by
  have hstatus : ∀ t : Noted σ,
      ((ask (driver.noting view) (.linkStatus program.raw)).run t).1 =
          some ((t.programs view).linked program.raw) ∧
        ((ask (driver.noting view) (.linkStatus program.raw)).run t).2.programs view =
          t.programs view := fun t =>
    ⟨congrArg some (hfollows.status program.raw t.driver.2),
      ask_keeps_programs hfollows (fun _ _ => rfl) _ t rfl⟩
  exact attempt_eq_ok_iff hfollows program (.linkProgram program.raw) hstatus s

/-! ### Operations that give them -/

/-- The state behind a program made current. -/
def State.using (driver : Driver σ) (view : σ → Context) (program : Option ProgramId)
    (s : Noted σ) : Noted σ :=
  ((use (driver.noting view) program).run s).2

@[simp] theorem current_using (program : Option ProgramId) (s : Noted σ) :
    (s.using driver view program).current = program := rfl

@[simp] theorem writes_using (program : Option ProgramId) (s : Noted σ) :
    (s.using driver view program).writes = s.writes :=
  List.append_nil _

theorem programs_using (hfollows : driver.Follows view) (program : Option ProgramId)
    (s : Noted σ) :
    (s.using driver view program).programs view =
      (s.programs view).use (programNumber program) :=
  programs_ordered_use hfollows (programNumber program) s

theorem run_get (s : σ) : (get : Job σ σ).run s = (some s, s) := rfl

/-- The state behind a deleted program. -/
def State.deleting (driver : Driver σ) (view : σ → Context) (program : ProgramId) (s : Noted σ) :
    Noted σ :=
  ((deleteProgram (driver.noting view) program).run s).2

theorem deleting_eq (program : ProgramId) (s : Noted σ) :
    s.deleting driver view program =
      if s.current = some program then
        (s.using driver view none).ordered driver view (.deleteProgram program.raw)
      else s.ordered driver view (.deleteProgram program.raw) := by
  rw [State.deleting, deleteProgram, Job.run_bind, run_get]
  simp only []
  split
  case isTrue h => rfl
  case isFalse h => rfl

/-- The state behind a written uniform. -/
def State.writing (driver : Driver σ) (view : σ → Context) (program : ProgramId)
    (location : Location) (value : UniformValue) (s : Noted σ) : Noted σ :=
  ((setUniform (driver.noting view) program location value).run s).2

theorem writing_eq (program : ProgramId) (location : Location) (value : UniformValue)
    (s : Noted σ) :
    s.writing driver view program location value =
      if s.current = some program then
        (s.ordered driver view (.writeUniform location value)).ordered driver view .error
      else
        (((s.ordered driver view (.useProgram program.raw)).ordered driver view
          (.writeUniform location value)).ordered driver view .error).ordered driver view
            (.useProgram (programNumber s.current)) := by
  rw [State.writing, setUniform, Job.run_bind, run_get]
  by_cases h : s.current = some program
  · simp only [h, ne_eq, not_true_eq_false, if_false, if_true]
    rfl
  · simp only [h, ne_eq, not_false_eq_true, if_false, if_true]
    rfl

/-! ### In step

The invariant along a way. Beside agreement it needs that nothing is deleted while in use, or making
a program current could end another one. -/

namespace Context

variable {context : Context} {n : Nat}

theorem programNumber_current (context : Context) :
    programNumber context.current = context.bound := by
  rw [Context.current]
  split
  case isTrue h => exact h.symm
  case isFalse => rfl

theorem of_current_eq {program : ProgramId} (h : context.current = some program) :
    program.raw = context.bound ∧ context.bound ≠ 0 := by
  rw [Context.current] at h
  split at h
  · cases h
  case isFalse hne => exact ⟨congrArg ProgramId.raw (Option.some.inj h).symm, hne⟩

theorem current_of_ne_zero (h : context.bound ≠ 0) : context.current = some ⟨context.bound⟩ :=
  if_neg h

theorem Clean.delete (h : context.Clean) (hn : n = 0 ∨ n ≠ context.bound) :
    (context.delete n).Clean ∧ (context.delete n).bound = context.bound := by
  rw [Context.delete]
  split
  case isTrue => exact ⟨h, rfl⟩
  case isFalse hne =>
    rw [if_neg (hn.resolve_left hne)]
    exact ⟨h, rfl⟩

end Context

/-- The backend tracks the program in use, and no program was deleted while it was in use. -/
structure InStep (view : σ → Context) (s : Noted σ) : Prop where
  /-- The program in use is the current one. -/
  tracks : s.Tracks view
  /-- Nothing is deleted while it is in use. -/
  clean : (s.programs view).Clean

/-- A call that makes a program current, or writes to it, names one that can be made current. -/
def Proper (view : σ → Context) (s : Noted σ) : Call → Prop
  | .use (some program) | .setUniform program _ _ => (s.programs view).Usable program
  | _ => True

/-- If a call writes to another program than the current one, the current one can be gone back
to. -/
def Restorable (view : σ → Context) (s : Noted σ) : Call → Prop
  | .setUniform program _ _ => ∀ current, s.current = some current → current ≠ program →
      (s.programs view).Usable current
  | _ => True

/-- The write that a call asks for. -/
def wanted : Call → List Write
  | .setUniform program location value => [⟨program.raw, location, value⟩]
  | _ => []

theorem InStep.programNumber_eq (h : InStep view s) :
    programNumber s.current = (s.programs view).bound := by
  rw [h.tracks, Context.programNumber_current]

theorem Undisturbed.inStep (h : Undisturbed view s t) (hs : InStep view s) : InStep view t where
  tracks := h.tracks_congr.mpr hs.tracks
  clean := by
    rw [Context.Clean, h.doomed]
    exact hs.clean

/-- A program that is made current is the one in use. -/
theorem InStep.using (hfollows : driver.Follows view) (h : InStep view s)
    {program : Option ProgramId} (hproper : Proper view s (.use program)) :
    InStep view (s.using driver view program) := by
  have hprograms := programs_using hfollows program s
  rw [h.clean.use] at hprograms
  cases program with
  | none =>
    rw [if_pos (.inl rfl)] at hprograms
    constructor
    · rw [State.Tracks, hprograms]
      rfl
    · rw [hprograms]
      exact h.clean
  | some program =>
    obtain ⟨hne, hlinked⟩ := hproper
    rw [if_pos (.inr hlinked)] at hprograms
    constructor
    · rw [State.Tracks, hprograms]
      exact (if_neg hne).symm
    · rw [hprograms]
      exact h.clean

/-- A program that is deleted is not left in use. -/
theorem InStep.deleting (hfollows : driver.Follows view) (h : InStep view s)
    (program : ProgramId) :
    InStep view (s.deleting driver view program) ∧
      (s.deleting driver view program).writes = s.writes ∧
      (s.deleting driver view program).current ≠ some program := by
  -- once the current program is given up, the deleted one is in neither case the one in use
  have hordered : ∀ r : Noted σ, InStep view r → r.current ≠ some program →
      InStep view (r.ordered driver view (.deleteProgram program.raw)) := by
    intro r hr hne
    have hnot : program.raw = 0 ∨ program.raw ≠ (r.programs view).bound := by
      by_contra hboth
      obtain ⟨hzero, hbound⟩ := not_or.mp hboth
      rw [not_not] at hbound
      rw [hr.tracks, Context.current_of_ne_zero (hbound ▸ hzero), ← hbound] at hne
      exact hne rfl
    obtain ⟨hclean, hbound⟩ := hr.clean.delete hnot
    constructor
    · rw [State.Tracks, programs_ordered_delete hfollows, current_ordered, hr.tracks,
        Context.current, Context.current, hbound]
    · rwa [programs_ordered_delete hfollows]
  rw [deleting_eq]
  split
  case isTrue hcurrent =>
    refine ⟨hordered _ (h.using hfollows trivial) (by simp), ?_, by simp⟩
    rw [writes_ordered, writes_using]
    exact List.append_nil _
  case isFalse hcurrent =>
    exact ⟨hordered s h hcurrent, List.append_nil _, hcurrent⟩

/-- **A write goes to the program it is meant for.** The backend takes the same program for current
behind it, and the driver uses it again exactly if it can be gone back to. -/
theorem InStep.writing (hfollows : driver.Follows view) (h : InStep view s) {program : ProgramId}
    {location : Location} {value : UniformValue}
    (hproper : Proper view s (.setUniform program location value)) :
    (s.writing driver view program location value).current = s.current ∧
    (s.writing driver view program location value).writes =
      s.writes ++ [⟨program.raw, location, value⟩] ∧
    (Restorable view s (.setUniform program location value) →
      (s.writing driver view program location value).programs view =
        s.programs view) ∧
    (¬Restorable view s (.setUniform program location value) →
      ((s.writing driver view program location value).programs view).bound =
        program.raw) := by
  obtain ⟨hne, hlinked⟩ := hproper
  rw [writing_eq]
  by_cases hcurrent : s.current = some program
  · have hbound : (s.programs view).bound = program.raw := by
      rw [← h.programNumber_eq, hcurrent]
      rfl
    have hrestorable : Restorable view s (.setUniform program location value) := by
      intro other hother hdiffers
      exact absurd (Option.some.inj (hother.symm.trans hcurrent)) hdiffers
    rw [if_pos hcurrent]
    refine ⟨rfl, ?_, fun _ => ?_, fun hnot => absurd hrestorable hnot⟩
    · rw [writes_ordered, writes_ordered, hbound, List.append_assoc]
      rfl
    · rw [programs_ordered_error hfollows, programs_ordered_write hfollows]
  · -- the other program is in use while the write is made, and then the driver is told to go back
    have hbound := programs_ordered_use hfollows program.raw s
    rw [h.clean.use, if_pos (.inr hlinked)] at hbound
    have hclean : ((s.ordered driver view (.useProgram program.raw)).programs view).Clean := by
      rw [hbound]
      exact h.clean
    rw [if_neg hcurrent]
    refine ⟨rfl, ?_, ?_⟩
    · simp only [writes_ordered, hbound]
      simp [Request.writes]
    · rw [programs_ordered_use hfollows, programs_ordered_error hfollows,
        programs_ordered_write hfollows, hclean.use, hbound, h.programNumber_eq]
      constructor
      · intro hrestorable
        rw [if_pos]
        by_cases hzero : (s.programs view).bound = 0
        · exact .inl hzero
        · have hother := h.tracks.trans (Context.current_of_ne_zero hzero)
          exact .inr (hrestorable _ hother fun hsame => hcurrent (hsame ▸ hother)).2
      · intro hnot
        rw [if_neg]
        intro hback
        refine hnot fun other hother _ => ?_
        obtain ⟨hraw, hzero⟩ := Context.of_current_eq (h.tracks.symm.trans hother)
        exact ⟨hraw ▸ hzero, hraw ▸ hback.resolve_left hzero⟩

/-- What is restorable is restored. -/
theorem InStep.inStep_writing (hfollows : driver.Follows view) (h : InStep view s)
    {program : ProgramId} {location : Location} {value : UniformValue}
    (hproper : Proper view s (.setUniform program location value))
    (hrestorable : Restorable view s (.setUniform program location value)) :
    InStep view (s.writing driver view program location value) := by
  obtain ⟨hcurrent, -, hback, -⟩ := h.writing hfollows hproper
  constructor
  · rw [State.Tracks, hcurrent, hback hrestorable]
    exact h.tracks
  · rw [hback hrestorable]
    exact h.clean

/-- What is not restorable leaves the program in use that was written to, and it is not current. -/
theorem InStep.restorable_of_tracks (hfollows : driver.Follows view) (h : InStep view s)
    {program : ProgramId} {location : Location} {value : UniformValue}
    (hproper : Proper view s (.setUniform program location value))
    (htracks : (s.writing driver view program location value).Tracks view) :
    Restorable view s (.setUniform program location value) := by
  obtain ⟨hcurrent, -, -, haway⟩ := h.writing hfollows hproper
  by_contra hnot
  have hbound := haway hnot
  refine hnot fun current hsome hdiffers => ?_
  rw [State.Tracks, hcurrent, hsome] at htracks
  obtain ⟨hraw, -⟩ := Context.of_current_eq htracks.symm
  exact absurd (congrArg ProgramId.mk (hraw.trans hbound)) hdiffers

/-! ### Runs

One call preserves the invariant under a condition that is also necessary, and a run is a sequence
of calls. -/

/-- The state behind a job. -/
def State.behind (s : State σ) (job : Job (State σ) α) : State σ :=
  (job.run s).2

/-- The calls on the way to a state, each in the state it was made in, the last one first. A call
that makes a program current or writes to it names one that can be made current; there is no other
condition. -/
inductive Way (driver : Driver σ) (view : σ → Context) :
    List (Noted σ × Call) → Noted σ → Prop where
  | fresh (device : σ) (hbound : (view device).bound = 0) (hclean : (view device).Clean) :
    Way driver view [] { driver := ([], device) }
  | call {earlier : List (Noted σ × Call)} {s : Noted σ} (h : Way driver view earlier s)
    {α : Type} {call : Call} {replies : α → List Reply} {job : Job (Noted σ) α}
    (hop : (backend (driver.noting view)).Operation call replies job)
    (hproper : Proper view s call) : Way driver view ((s, call) :: earlier) (s.behind job)

/-- **One call.** From a state in step it leads to one in step exactly if the current program can be
gone back to, where that is called for. What is written is what the call asks for. -/
theorem InStep.call (hfollows : driver.Follows view) (h : InStep view s) {call : Call}
    {replies : α → List Reply} {job : Job (Noted σ) α}
    (hop : (backend (driver.noting view)).Operation call replies job)
    (hproper : Proper view s call) :
    (Restorable view s call → InStep view (s.behind job)) ∧
      ((s.behind job).Tracks view → Restorable view s call) ∧
      (s.behind job).writes = s.writes ++ wanted call := by
  -- the operations that make no program current, delete none and write nothing
  have hplain (hrestorable : Restorable view s call) (hwanted : wanted call = [])
      (hkeeps : job.Keeps (Undisturbed view s)) :
      (Restorable view s call → InStep view (s.behind job)) ∧
        ((s.behind job).Tracks view → Restorable view s call) ∧
        (s.behind job).writes = s.writes ++ wanted call := by
    have hsame : Undisturbed view s (s.behind job) := hkeeps s (.refl s)
    refine ⟨fun _ => hsame.inStep h, fun _ => hrestorable, ?_⟩
    rw [hsame.writes, hwanted, List.append_nil]
  cases hop with
  | setUniform program location value =>
    exact ⟨h.inStep_writing hfollows hproper, h.restorable_of_tracks hfollows hproper,
      (h.writing hfollows hproper).2.1⟩
  | use program =>
    exact ⟨fun _ => h.using hfollows hproper, fun _ => trivial,
      (writes_using program s).trans (List.append_nil _).symm⟩
  | deleteProgram program =>
    obtain ⟨hinStep, hwrites, -⟩ := h.deleting hfollows program
    exact ⟨fun _ => hinStep, fun _ => trivial, hwrites.trans (List.append_nil _).symm⟩
  | compile stage source => exact hplain trivial rfl (compile_keeps hfollows stage source s)
  | createProgram => exact hplain trivial rfl (createProgram_keeps hfollows s)
  | link program =>
    exact hplain trivial rfl (attempt_keeps hfollows program rfl s (ask_keeps hfollows rfl s))
  | validate program =>
    exact hplain trivial rfl (attempt_keeps hfollows program rfl s (ask_keeps hfollows rfl s))
  | uniformLocation program name =>
    exact hplain trivial rfl (uniformLocation_keeps hfollows program name s)
  | attributeLocation program name =>
    exact hplain trivial rfl (attributeLocation_keeps hfollows program name s)
  | activeUniforms program => exact hplain trivial rfl (activeUniforms_keeps hfollows program s)
  | deleteStage | attach | detach => exact hplain trivial rfl (order_keeps hfollows rfl s)

namespace Way

variable {earlier : List (Noted σ × Call)}

/-- As long as current programs can be gone back to, the backend and the driver stay in step, and
every write goes where it is meant to go. -/
theorem inStep (hfollows : driver.Follows view) (h : Way driver view earlier s)
    (hrestorable : ∀ step ∈ earlier, Restorable view step.1 step.2) :
    InStep view s ∧ s.writes = earlier.reverse.flatMap fun step => wanted step.2 := by
  induction h with
  | fresh device hbound hclean =>
    refine ⟨⟨?_, hclean⟩, rfl⟩
    exact (if_pos hbound).symm
  | call _ hop hproper ih =>
    obtain ⟨hhere, hbefore⟩ := List.forall_mem_cons.mp hrestorable
    obtain ⟨hinStep, hwrites⟩ := ih hbefore
    obtain ⟨hstep, -, hwrite⟩ := hinStep.call hfollows hop hproper
    refine ⟨hstep hhere, ?_⟩
    rw [hwrite, hwrites, List.reverse_cons, List.flatMap_append, List.flatMap_singleton]

/-- **The backend and the driver are in step all the way exactly if every write to another program
finds the current one such that it can be gone back to.** Then every write was made while the
program that it was meant for was in use, the next one leaves the program in use exactly if that
holds of it too, and no deletion leaves the deleted program in use. -/
theorem tracks_iff (hfollows : driver.Follows view) (h : Way driver view earlier s) :
    ((∀ r ∈ s :: earlier.map Prod.fst, r.Tracks view) ↔
      ∀ step ∈ earlier, Restorable view step.1 step.2) ∧
    ((∀ step ∈ earlier, Restorable view step.1 step.2) →
      (s.writes = earlier.reverse.flatMap fun step => wanted step.2) ∧
      (∀ program location value, (s.programs view).Usable program →
        (((s.writing driver view program location value).programs view).current =
            (s.programs view).current ↔
          Restorable view s (.setUniform program location value))) ∧
      ∀ program, ((s.deleting driver view program).programs view).current ≠ some program) := by
  constructor
  · induction h with
    | fresh device hbound hclean =>
      refine iff_of_true ?_ (by simp)
      rintro r (_ | ⟨_, ⟨⟩⟩)
      exact (if_pos hbound).symm
    -- Both sides say something of the states and calls so far, and one more of each.
    | @call earlier s hway _ _ _ _ hop hproper ih =>
      rw [List.map_cons, List.forall_mem_cons, ih, List.forall_mem_cons]
      refine and_congr_left fun hrestorable => ?_
      obtain ⟨hstep, htracks, -⟩ := (hway.inStep hfollows hrestorable).1.call hfollows hop hproper
      exact ⟨htracks, fun hhere => (hstep hhere).tracks⟩
  · intro hrestorable
    obtain ⟨hinStep, hwrites⟩ := h.inStep hfollows hrestorable
    refine ⟨hwrites, fun program location value hproper => ?_, fun program => ?_⟩
    · constructor
      · intro hsame
        -- if the driver goes back, the backend is right, so it could be gone back to
        refine hinStep.restorable_of_tracks hfollows hproper ?_
        rw [State.Tracks, (hinStep.writing hfollows hproper).1, hsame]
        exact hinStep.tracks
      · intro hhere
        rw [(hinStep.writing hfollows hproper).2.2.1 hhere]
    · obtain ⟨hbehind, -, hne⟩ := hinStep.deleting hfollows program
      rw [← hbehind.tracks]
      exact hne

end Way

/-! ### A device

An instance of a driver that follows its programs, with the outcomes of links given beforehand. It
is made of the scripted answers for everything else. -/

/-- A device that decides on links beforehand. -/
structure Device where
  /-- What comes of the next links. Those behind them are accepted. -/
  outcomes : List Bool := []
  /-- How many programs were made. -/
  made : Nat := 0
  /-- What it has of programs. -/
  programs : Context := {}

/-- A driver for the device. What is not about programs is answered as a scripted one does. -/
def device : Driver Device where
  answer
    | .createProgram, s => (s.made + 1, { s with made := s.made + 1 })
    | .linkProgram n, s => ((), { s with
        outcomes := s.outcomes.tail
        programs := s.programs.after (s.outcomes.headD true) (.linkProgram n) })
    | .linkStatus n, s => (s.programs.linked n, s)
    | request, s =>
      ((scripted.answer request {}).1, { s with programs := s.programs.after true request })

theorem device_follows : device.Follows Device.programs where
  after request s := by
    cases request
    case linkProgram n => exact ⟨_, rfl⟩
    all_goals exact ⟨true, rfl⟩
  status n s := rfl

/-- The backend over the device. -/
abbrev deviceBackend : Backend (Noted Device) :=
  backend (device.noting Device.programs)

/-- The first of two linked programs is in use. The link behind these two will be refused. -/
def twoPrograms : Noted Device :=
  State.behind { driver := ([], { outcomes := [true, true, false] }) } deviceBackend.createProgram
    |>.behind deviceBackend.createProgram
    |>.behind (deviceBackend.link ⟨1⟩)
    |>.behind (deviceBackend.link ⟨2⟩)
    |>.behind (deviceBackend.use (some ⟨1⟩))

theorem exists_way_twoPrograms : ∃ earlier, Way device Device.programs earlier twoPrograms ∧
    ∀ step ∈ earlier, wanted step.2 = [] ∧ Restorable Device.programs step.1 step.2 := by
  have hfresh : Way device Device.programs []
      { driver := ([], { outcomes := [true, true, false] }) } :=
    .fresh ({ outcomes := [true, true, false] } : Device) rfl fun _ => rfl
  have hcreated := (hfresh.call .createProgram trivial).call .createProgram trivial
  have hlinked := (hcreated.call (.link ⟨1⟩) trivial).call (.link ⟨2⟩) trivial
  have hused := hlinked.call (.use (some ⟨1⟩)) (by constructor <;> decide +kernel)
  refine ⟨_, hused, ?_⟩
  simp only [List.forall_mem_cons]
  exact ⟨⟨rfl, trivial⟩, ⟨rfl, trivial⟩, ⟨rfl, trivial⟩, ⟨rfl, trivial⟩, ⟨rfl, trivial⟩, nofun⟩

/-- The second program is written to while the first one is in use. -/
def wroteAside : Noted Device :=
  twoPrograms.writing device Device.programs ⟨2⟩ ⟨0⟩ (.float 0)

/-- It got the value, and the first one is in use again. -/
theorem tracks_iff_wroteAside :
    wroteAside.writes = [⟨2, ⟨0⟩, .float 0⟩] ∧
      (wroteAside.programs Device.programs).current = some ⟨1⟩ ∧
      wroteAside.Tracks Device.programs := by
  obtain ⟨earlier, hway, hearlier⟩ := exists_way_twoPrograms
  have husable : (twoPrograms.programs Device.programs).Usable ⟨2⟩ := by
    constructor <;> decide +kernel
  have hback : Restorable Device.programs twoPrograms (.setUniform ⟨2⟩ ⟨0⟩ (.float 0)) := by
    rintro current hcurrent -
    have hfirst : twoPrograms.current = some ⟨1⟩ := rfl
    obtain rfl : current = ⟨1⟩ := Option.some.inj (hcurrent.symm.trans hfirst)
    constructor <;> decide +kernel
  have hwrote := hway.call (.setUniform ⟨2⟩ ⟨0⟩ (.float 0)) husable
  have hall : ∀ step ∈ (twoPrograms, Call.setUniform ⟨2⟩ ⟨0⟩ (.float 0)) :: earlier,
      Restorable Device.programs step.1 step.2 :=
    List.forall_mem_cons.mpr ⟨hback, fun step hstep => (hearlier step hstep).2⟩
  obtain ⟨htracks, hbehind⟩ := Way.tracks_iff device_follows hwrote
  have hstep : wroteAside.Tracks Device.programs := htracks.mpr hall _ List.mem_cons_self
  refine ⟨?_, hstep.symm, hstep⟩
  have hnone : (earlier.reverse.flatMap fun step => wanted step.2) = [] := by
    simp only [List.flatMap_eq_nil_iff, List.mem_reverse]
    exact fun step hstep => (hearlier step hstep).1
  have hwrites := (hbehind hall).1
  rw [List.reverse_cons, List.flatMap_append, hnone] at hwrites
  exact hwrites

/-- The first program is linked again, which is refused. -/
def fallenBack : Noted Device :=
  (twoPrograms.behind (deviceBackend.link ⟨1⟩)).writing device Device.programs ⟨2⟩ ⟨0⟩ (.float 0)

/-- **A driver that does not go back**: a write to the second program leaves it in use, and the
backend has the first one for current. -/
theorem not_tracks_fallenBack : ∃ earlier, Way device Device.programs earlier fallenBack ∧
    fallenBack.current = some ⟨1⟩ ∧
      (fallenBack.programs Device.programs).current = some ⟨2⟩ := by
  obtain ⟨earlier, hway, -⟩ := exists_way_twoPrograms
  have hrefused := hway.call (.link ⟨1⟩) trivial
  have hwrote := hrefused.call (.setUniform ⟨2⟩ ⟨0⟩ (.float 0)) (by constructor <;> decide +kernel)
  exact ⟨_, hwrote, by decide +kernel, by decide +kernel⟩

end ShaderBundle.Gl
