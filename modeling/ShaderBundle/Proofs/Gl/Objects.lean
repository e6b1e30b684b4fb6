import ShaderBundle.Proofs.Gl.Current
import ShaderBundle.Proofs.Graphics.Ledger

/-!
# The objects of a driver

A driver hands out shaders and programs by number and takes orders about them. This module says what
an exchange with a driver does to the objects there are, in the terms in which a conversation with a
backend is kept account of, and what the operations of the backend that a build is made of say to
the driver. A shader that does not compile is made and deleted within one operation, so the caller
never hears of it.

## One account for both

A backend is asked to compile, and answers with a stage or a log. A driver is asked for a shader,
given a source, told to compile, asked whether it did, and so on. The two conversations are of
different kinds, but both come to objects that are made and deleted, attached and detached.
`Exchange.deeds` translates an exchange with a driver into the events of a conversation with a
backend, so that the same ledger can be kept of either. Most exchanges translate to nothing.

## What a driver may answer

Nothing is assumed about a driver. It may hand out zero for an object, which stands for none, and it
may report any status after any order. So an operation can go several ways, and `CompileTalk` has a
constructor for each: a source that is not sent, a shader that is not made, a shader that compiles
and one that does not. In the last case the number that was handed out is given back before the
operation returns.

## Main definitions

* `deeds` is what exchanges do to the objects there are.
* `Lawful`: requests name objects that exist, so neither zero nor anything deleted.
* `Says`: what a job says to the driver and hears from it.
* `CompileTalk`: the ways in which the exchanges over compiling a stage can go.

## Main results

* `Lawful.legal`: what lawful requests do is legal.
* `Lawful.ne_zero`: they never name zero.
* `says_compile`, `says_createProgram`, `says_link`, `says_validate`: what the operations say.

## Implementation notes

Shaders and programs are numbered apart here. A driver that numbers them together hands out unused
numbers in this sense all the more.

`Says` speaks of a job over the recording driver that returns, and relates its answer to what was
said on the way. The relation is a parameter, as in a logic of triples: `Says.bind` composes two of
them, and `Says.mono` makes them weaker. A number that was handed out is a parameter of what
follows, which is why the relation of the second job may depend on the answer of the first.
-/

namespace ShaderBundle

namespace Gl

variable {σ α β : Type}

/-! ### What exchanges do to objects

`Lawful` is to exchanges what legality is to the events of a conversation. It is stronger in two
ways: it also concerns requests that translate to nothing, such as one for a log, and it rules out
zero, which is never an object. -/

/-- The shaders that a request names. -/
def Request.shaders : Request → List StageId
  | shaderSource shader _ | compileShader shader | compileStatus shader | shaderLogLength shader
  | shaderLog shader _ | deleteShader shader | attachShader _ shader | detachShader _ shader =>
    [⟨shader⟩]
  | _ => []

/-- The programs that a request names. -/
def Request.programs : Request → List ProgramId
  | attachShader program _ | detachShader program _ | linkProgram program | linkStatus program
  | validateProgram program | validateStatus program | programLogLength program
  | programLog program _ | deleteProgram program | uniformLocation program _
  | attributeLocation program _ | activeUniforms program | longestUniformName program
  | activeUniform program _ _ | useProgram program => [⟨program⟩]
  | _ => []

/-- There is a new object of the number. Zero is no object. -/
def handedOut (reply : Nat → Reply) (n : Nat) : List Event :=
  if n = 0 then [] else [.reply (reply n)]

@[simp] theorem handedOut_zero (reply : Nat → Reply) : handedOut reply 0 = [] := rfl

theorem handedOut_of_ne_zero {n : Nat} (h : n ≠ 0) (reply : Nat → Reply) :
    handedOut reply n = [.reply (reply n)] :=
  if_neg h

/-- What an exchange does to the objects there are. -/
def Exchange.deeds : Exchange → List Event
  | ⟨.createShader _, n⟩ => handedOut (fun n => .stage ⟨n⟩) n
  | ⟨.createProgram, n⟩ => handedOut (fun n => .program ⟨n⟩) n
  | ⟨.deleteShader n, _⟩ => [.call (.deleteStage ⟨n⟩)]
  | ⟨.deleteProgram n, _⟩ => [.call (.deleteProgram ⟨n⟩)]
  | ⟨.attachShader program shader, _⟩ => [.call (.attach ⟨program⟩ ⟨shader⟩)]
  | ⟨.detachShader program shader, _⟩ => [.call (.detach ⟨program⟩ ⟨shader⟩)]
  | ⟨.useProgram n, _⟩ => [.call (.use (if n = 0 then none else some ⟨n⟩))]
  | _ => []

theorem deeds_createShader {n : Nat} (h : n ≠ 0) (type : Nat) :
    Exchange.deeds ⟨.createShader type, n⟩ = [.reply (.stage ⟨n⟩)] :=
  handedOut_of_ne_zero h fun n => .stage ⟨n⟩

theorem deeds_createProgram {n : Nat} (h : n ≠ 0) :
    Exchange.deeds ⟨.createProgram, n⟩ = [.reply (.program ⟨n⟩)] :=
  handedOut_of_ne_zero h fun n => .program ⟨n⟩

/-- What exchanges do to the objects there are, in order. -/
def deeds (said : List Exchange) : List Event :=
  said.flatMap Exchange.deeds

@[simp] theorem deeds_nil : deeds [] = [] := rfl

@[simp] theorem deeds_cons (x : Exchange) (rest : List Exchange) :
    deeds (x :: rest) = x.deeds ++ deeds rest := rfl

@[simp] theorem deeds_append (first second : List Exchange) :
    deeds (first ++ second) = deeds first ++ deeds second :=
  List.flatMap_append

/-- The objects that a request names are there. -/
structure Named (ledger : Ledger) (request : Request) : Prop where
  /-- The shaders are. -/
  shaders : ∀ shader ∈ request.shaders, shader ∈ ledger.stages
  /-- The programs are. -/
  programs : ∀ program ∈ request.programs, program ∈ ledger.programs

/-- A request that names nothing names only what is there. -/
theorem named_of_nothing {ledger : Ledger} {request : Request} (hshaders : request.shaders = [])
    (hprograms : request.programs = []) : Named ledger request where
  shaders := hshaders ▸ List.forall_mem_nil _
  programs := hprograms ▸ List.forall_mem_nil _

/-- Every request names objects that are there when it is made. -/
def Lawful : Ledger → List Exchange → Prop
  | _, [] => True
  | ledger, x :: rest => Named ledger x.request ∧ Lawful (ledger.run x.deeds) rest

theorem lawful_append {ledger : Ledger} {first second : List Exchange} :
    Lawful ledger (first ++ second) ↔
      Lawful ledger first ∧ Lawful (ledger.run (deeds first)) second := by
  induction first generalizing ledger with
  | nil => simp [Lawful]
  | cons x rest ih =>
    rw [List.cons_append, Lawful, Lawful, ih, deeds_cons, Ledger.run_append, and_assoc]

/-- Exchanges that neither make nor delete anything, over the same shaders and programs. -/
def Tends (shaders : List StageId) (programs : List ProgramId) (said : List Exchange) : Prop :=
  ∀ x ∈ said, x.deeds = [] ∧ x.request.shaders = shaders ∧ x.request.programs = programs

section Tends

variable {ledger : Ledger} {shaders : List StageId} {programs : List ProgramId}
  {said : List Exchange}

theorem tends_append {more : List Exchange} : Tends shaders programs (said ++ more) ↔
    Tends shaders programs said ∧ Tends shaders programs more :=
  List.forall_mem_append

theorem tends_singleton {x : Exchange} (hdeeds : x.deeds = [])
    (hshaders : x.request.shaders = shaders)
    (hprograms : x.request.programs = programs) : Tends shaders programs [x] :=
  List.forall_mem_singleton.mpr ⟨hdeeds, hshaders, hprograms⟩

theorem Tends.deeds_eq (h : Tends shaders programs said) : deeds said = [] :=
  List.flatMap_eq_nil_iff.mpr fun x hx => (h x hx).1

theorem Tends.lawful (h : Tends shaders programs said)
    (hshaders : ∀ shader ∈ shaders, shader ∈ ledger.stages)
    (hprograms : ∀ program ∈ programs, program ∈ ledger.programs) : Lawful ledger said := by
  induction said with
  | nil => exact trivial
  | cons x rest ih =>
    obtain ⟨⟨hdeeds, hshade, hprogram⟩, hrest⟩ := List.forall_mem_cons.mp h
    refine ⟨⟨hshade ▸ hshaders, hprogram ▸ hprograms⟩, ?_⟩
    rw [hdeeds]
    exact ih hrest

end Tends

/-- What a request does to objects that are there is legal. -/
theorem Named.legal {ledger : Ledger} {x : Exchange} (h : Named ledger x.request) :
    ledger.Legal x.deeds := by
  obtain ⟨request, answer⟩ := x
  cases request
  case createShader | createProgram =>
    simp only [Exchange.deeds, handedOut]
    split <;> simp [Ledger.Allows]
  case useProgram n =>
    refine ⟨⟨nofun, fun program hprogram => ?_⟩, trivial⟩
    by_cases hn : n = 0
    · simp [Call.programs, hn] at hprogram
    · simp only [Call.programs, hn, if_false, List.mem_singleton] at hprogram
      exact h.programs program (by simp [Request.programs, hprogram])
  case deleteShader | deleteProgram | attachShader | detachShader =>
    exact ⟨⟨h.shaders, h.programs⟩, trivial⟩
  all_goals exact trivial

/-- What lawful requests do is legal. -/
theorem Lawful.legal {ledger : Ledger} {said : List Exchange} (h : Lawful ledger said) :
    ledger.Legal (deeds said) := by
  induction said generalizing ledger with
  | nil => exact trivial
  | cons x rest ih => exact Ledger.along_append.mpr ⟨h.1.legal, ih h.2⟩

variable {ledger : Ledger}

/-- Zero is neither a shader nor a program. -/
def ZeroFree (ledger : Ledger) : Prop :=
  ⟨0⟩ ∉ ledger.stages ∧ ⟨0⟩ ∉ ledger.programs

theorem ZeroFree.run_deeds (h : ZeroFree ledger) (x : Exchange) :
    ZeroFree (ledger.run x.deeds) := by
  obtain ⟨request, answer⟩ := x
  obtain ⟨hshaders, hprograms⟩ := h
  cases request
  case createShader type =>
    by_cases hzero : answer = (0 : Nat)
    · subst hzero
      exact ⟨hshaders, hprograms⟩
    · rw [deeds_createShader hzero]
      refine ⟨fun hmem => ?_, hprograms⟩
      rcases List.mem_append.mp hmem with hold | hnew
      · exact hshaders hold
      · exact hzero (congrArg StageId.raw (List.mem_singleton.mp hnew)).symm
  case createProgram =>
    by_cases hzero : answer = (0 : Nat)
    · subst hzero
      exact ⟨hshaders, hprograms⟩
    · rw [deeds_createProgram hzero]
      refine ⟨hshaders, fun hmem => ?_⟩
      rcases List.mem_append.mp hmem with hold | hnew
      · exact hprograms hold
      · exact hzero (congrArg ProgramId.raw (List.mem_singleton.mp hnew)).symm
  case deleteShader n =>
    exact ⟨fun hmem => hshaders (List.mem_filter.mp hmem).1, hprograms⟩
  case deleteProgram n =>
    exact ⟨hshaders, fun hmem => hprograms (List.mem_filter.mp hmem).1⟩
  all_goals exact ⟨hshaders, hprograms⟩

/-- Lawful requests do not name zero. -/
theorem Lawful.ne_zero {said : List Exchange} (h : Lawful ledger said) (hzero : ZeroFree ledger) :
    ∀ x ∈ said, ⟨0⟩ ∉ x.request.shaders ∧ ⟨0⟩ ∉ x.request.programs := by
  induction said generalizing ledger with
  | nil => exact nofun
  | cons x rest ih =>
    obtain ⟨hnamed, hrest⟩ := h
    exact List.forall_mem_cons.mpr ⟨⟨fun hmem => hzero.1 (hnamed.shaders _ hmem),
      fun hmem => hzero.2 (hnamed.programs _ hmem)⟩, ih hrest (hzero.run_deeds x)⟩

/-! ### What a job says to the driver

The operations are taken apart along their steps. Those that read a status and then perhaps a log go
on about one object (`Tends`), neither make nor delete any, and so leave the account as it was. -/

/-- The job returns. What it says to the driver, and the answer it comes to, are related by `R`. -/
def Says (R : α → List Exchange → Prop) (job : Job (State (List Exchange × σ)) α) : Prop :=
  ∀ current log device, ∃ a said after,
    job.run ⟨current, (log, device)⟩ = (some a, ⟨current, (log ++ said, after)⟩) ∧ R a said

variable {driver : Driver σ}

theorem says_pure (a : α) :
    Says (σ := σ) (fun b said => b = a ∧ said = []) (pure a) :=
  fun _ _ device => ⟨a, [], device, by simp, rfl, rfl⟩

theorem says_ask (driver : Driver σ) (request : Request) :
    Says (fun a said => said = [⟨request, a⟩]) (ask driver.recording request) :=
  fun _ _ _ => ⟨_, _, _, rfl, rfl⟩

theorem Says.mono {R R' : α → List Exchange → Prop} {job : Job (State (List Exchange × σ)) α}
    (h : Says R job) (himp : ∀ a said, R a said → R' a said) : Says R' job := by
  intro current log device
  obtain ⟨a, said, after, hrun, hR⟩ := h current log device
  exact ⟨a, said, after, hrun, himp a said hR⟩

/-- A job and the next say what the one says, then what the other says. -/
theorem Says.bind {R : α → List Exchange → Prop} {S : α → β → List Exchange → Prop}
    {job : Job (State (List Exchange × σ)) α} {next : α → Job (State (List Exchange × σ)) β}
    (h : Says R job) (hnext : ∀ a, Says (S a) (next a)) :
    Says (fun b said => ∃ a first second, R a first ∧ S a b second ∧ said = first ++ second)
      (job >>= next) := by
  intro current log device
  obtain ⟨a, first, middle, hrun, hR⟩ := h current log device
  obtain ⟨b, second, after, hrun', hS⟩ := hnext a current (log ++ first) middle
  refine ⟨b, first ++ second, after, ?_, a, first, second, hR, hS, rfl⟩
  rw [Job.run_bind, hrun]
  simp only [hrun', List.append_assoc]

/-- An order, and then what the next job says. -/
theorem Says.after_order {S : β → List Exchange → Prop} {request : Request}
    {next : Unit → Job (State (List Exchange × σ)) β} (h : Says S (next ())) :
    Says (fun b said => ∃ answer rest, S b rest ∧ said = ⟨request, answer⟩ :: rest)
      (order driver.recording request >>= next) := by
  have horder : Says (fun _ said => ∃ answer, said = [⟨request, answer⟩])
      (order driver.recording request) := by
    refine ((says_ask driver request).bind fun _ => says_pure ()).mono fun _ said hsaid => ?_
    obtain ⟨answer, _, _, rfl, ⟨-, rfl⟩, rfl⟩ := hsaid
    exact ⟨answer, rfl⟩
  refine (horder.bind (S := fun _ => S) fun _ => h).mono fun b said hsaid => ?_
  obtain ⟨-, _, rest, ⟨answer, rfl⟩, hrest, rfl⟩ := hsaid
  exact ⟨answer, rest, hrest, rfl⟩

/-- A shader is given its source and compiled, and it is asked what came of it. -/
def submission (n : Nat) (source : Text) (compiled : Bool) : List Exchange :=
  [⟨.shaderSource n source, ()⟩, ⟨.compileShader n, ()⟩, ⟨.compileStatus n, compiled⟩]

/-- The log of a shader is read. -/
def shaderReading (n : Nat) (length : Int) (bytes : List UInt8) : List Exchange :=
  [⟨.shaderLogLength n, length⟩, ⟨.shaderLog n (room length), bytes⟩]

theorem tends_submission (n : Nat) (source : Text) (compiled : Bool) :
    Tends [⟨n⟩] [] (submission n source compiled) := by
  simp [Tends, submission, Exchange.deeds, Request.shaders, Request.programs]

theorem tends_shaderReading (n : Nat) (length : Int) (bytes : List UInt8) :
    Tends [⟨n⟩] [] (shaderReading n length bytes) := by
  simp [Tends, shaderReading, Exchange.deeds, Request.shaders, Request.programs]

/-- The exchanges over compiling a stage. -/
inductive CompileTalk (stage : Stage) (source : Text) :
    Except Text StageId → List Exchange → Prop where
  | unsent (log : Text) : CompileTalk stage source (.error log) []
  | uncreated (log : Text) :
    CompileTalk stage source (.error log) [⟨.createShader (stageType stage), (0 : Nat)⟩]
  | accepted {n : Nat} (hn : n ≠ 0) :
    CompileTalk stage source (.ok ⟨n⟩)
      (⟨.createShader (stageType stage), n⟩ :: submission n source true)
  | refused {n : Nat} (hn : n ≠ 0) (log : Text) (length : Int) (bytes : List UInt8) :
    CompileTalk stage source (.error log)
      (⟨.createShader (stageType stage), n⟩ :: (submission n source false ++
        (shaderReading n length bytes ++ [⟨.deleteShader n, ()⟩])))

theorem says_shaderLog (driver : Driver σ) (n : Nat) :
    Says (fun _ said => ∃ length bytes, said = shaderReading n length bytes)
      (shaderLog driver.recording n) := by
  refine ((says_ask driver (.shaderLogLength n)).bind fun length =>
    (says_ask driver (.shaderLog n (room length))).bind fun _ => says_pure _).mono
      fun _ said hsaid => ?_
  obtain ⟨length, _, _, rfl, ⟨bytes, _, _, rfl, ⟨-, rfl⟩, rfl⟩, rfl⟩ := hsaid
  exact ⟨length, bytes, rfl⟩

theorem says_compile (driver : Driver σ) (stage : Stage) (source : Text) :
    Says (CompileTalk stage source) (compile driver.recording stage source) := by
  rw [compile]
  split
  -- a source with a zero in it is not sent
  · refine (says_pure _).mono fun answer said hsaid => ?_
    obtain ⟨rfl, rfl⟩ := hsaid
    exact .unsent _
  · refine ((says_ask driver (.createShader (stageType stage))).bind
      (S := fun n answer said => CompileTalk stage source answer
        (⟨.createShader (stageType stage), n⟩ :: said))
      fun (n : Nat) => ?_).mono fun answer said hsaid => ?_
    · split
      -- Zero stands for no shader.
      case isTrue hzero =>
        refine (says_pure _).mono fun answer said hsaid => ?_
        obtain ⟨rfl, rfl⟩ := hsaid
        exact hzero ▸ .uncreated _
      -- There is a shader: it gets its source, is compiled and asked for its status.
      case isFalse hn =>
        refine (Says.after_order (.after_order ((says_ask driver (.compileStatus n)).bind
          (S := fun compiled answer said => CompileTalk stage source answer
            (⟨.createShader (stageType stage), n⟩ :: (submission n source compiled ++ said)))
          fun (compiled : Bool) => ?_))).mono fun answer said hsaid => ?_
        · cases compiled with
          | true =>
            refine (says_pure _).mono fun answer said hsaid => ?_
            obtain ⟨rfl, rfl⟩ := hsaid
            exact .accepted hn
          -- The log is read, and the shader is deleted.
          | false =>
            rw [if_neg Bool.false_ne_true]
            refine ((says_shaderLog driver n).bind fun log =>
              .after_order (says_pure (Except.error log))).mono fun answer said hsaid => ?_
            obtain ⟨log, _, _, ⟨length, bytes, rfl⟩, ⟨_, _, ⟨rfl, rfl⟩, rfl⟩, rfl⟩ := hsaid
            exact .refused hn log length bytes
        · obtain ⟨_, _, ⟨_, _, ⟨compiled, _, rest, rfl, hrest, rfl⟩, rfl⟩, rfl⟩ := hsaid
          exact hrest
    · obtain ⟨n, _, rest, rfl, hrest, rfl⟩ := hsaid
      exact hrest

/-- The exchange over making a program. -/
inductive CreateTalk : Except Text ProgramId → List Exchange → Prop where
  | uncreated (log : Text) : CreateTalk (.error log) [⟨.createProgram, (0 : Nat)⟩]
  | accepted {n : Nat} (hn : n ≠ 0) : CreateTalk (.ok ⟨n⟩) [⟨.createProgram, n⟩]

theorem says_createProgram (driver : Driver σ) :
    Says CreateTalk (createProgram driver.recording) := by
  refine ((says_ask driver .createProgram).bind fun _ => says_pure _).mono
    fun answer said hsaid => ?_
  obtain ⟨(n : Nat), _, _, rfl, ⟨rfl, rfl⟩, rfl⟩ := hsaid
  by_cases hn : n = 0
  · rw [if_pos hn, hn]
    exact .uncreated _
  · rw [if_neg hn]
    exact .accepted hn

/-- An order about a program is given and its status asked. If that is bad, the log is read. -/
theorem says_attempt (driver : Driver σ) (program : ProgramId) {request : Request}
    (hrequest : ∀ answer, Tends [] [program] [⟨request, answer⟩])
    {status : Job (State (List Exchange × σ)) Bool}
    (hstatus : Says (fun _ said => Tends [] [program] said) status) :
    Says (fun _ said => Tends [] [program] said)
      (attempt driver.recording program request status) := by
  -- reading a log is about the one program
  have hlog : Says (fun _ said => Tends [] [program] said)
      (programLog driver.recording program.raw) := by
    refine ((says_ask driver (.programLogLength program.raw)).bind fun length =>
      (says_ask driver (.programLog program.raw (room length))).bind fun _ => says_pure _).mono
        fun _ said hsaid => ?_
    obtain ⟨_, _, _, rfl, ⟨_, _, _, rfl, ⟨-, rfl⟩, rfl⟩, rfl⟩ := hsaid
    exact tends_append.mpr ⟨tends_singleton rfl rfl rfl, tends_singleton rfl rfl rfl⟩
  refine (Says.after_order (hstatus.bind (S := fun _ _ said => Tends [] [program] said)
    fun accepted => ?_)).mono fun _ said hsaid => ?_
  · cases accepted with
    | true => exact (says_pure _).mono fun _ said hsaid => by simp [hsaid.2, Tends]
    | false =>
      refine (hlog.bind fun _ => says_pure _).mono fun _ said hsaid => ?_
      obtain ⟨_, first, _, hfirst, ⟨-, rfl⟩, rfl⟩ := hsaid
      rwa [List.append_nil]
  · obtain ⟨answer, _, ⟨_, first, second, hfirst, hsecond, rfl⟩, rfl⟩ := hsaid
    rw [← List.singleton_append]
    exact tends_append.mpr ⟨hrequest answer, tends_append.mpr ⟨hfirst, hsecond⟩⟩

theorem says_link (driver : Driver σ) (program : ProgramId) :
    Says (fun _ said => Tends [] [program] said) ((backend driver.recording).link program) := by
  have hstatus : Says (α := Bool) (fun _ said => Tends [] [program] said)
      (ask driver.recording (.linkStatus program.raw)) :=
    (says_ask driver (.linkStatus program.raw)).mono fun _ _ hsaid =>
      hsaid ▸ tends_singleton rfl rfl rfl
  exact says_attempt driver program (fun _ => tends_singleton rfl rfl rfl) hstatus

theorem says_validate (driver : Driver σ) (program : ProgramId) :
    Says (fun _ said => Tends [] [program] said) ((backend driver.recording).validate program) := by
  have hstatus : Says (α := Bool) (fun _ said => Tends [] [program] said)
      (ask driver.recording (.validateStatus program.raw)) :=
    (says_ask driver (.validateStatus program.raw)).mono fun _ _ hsaid =>
      hsaid ▸ tends_singleton rfl rfl rfl
  exact says_attempt driver program (fun _ => tends_singleton rfl rfl rfl) hstatus

end Gl

end ShaderBundle
