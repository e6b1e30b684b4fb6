import ShaderBundle.Proofs.Registry.Discards
import ShaderBundle.Proofs.Registry.Staged

/-!
# A registry in service

Any number of callers work with one registry. A request that builds is in flight between its two
halves, and what it is built from was read from a loader that may give another text every time. The
graphics thread carries orders and jobs out in between.

## Main definitions

* `Errand` is a request in flight with the snapshot that it follows and with how far it has come.
* `Service` is a registry with its errands, and with a record of what its programs were built from
  and of the programs that took the place of others.
* `Service.Step` is what happens next, `Service.Reached` what has happened so far.
* `Service.Regular`: everything in the table is accounted for by callers and errands.

## Main results

* `Service.Reached.regular`: that is so whatever happens.

## Implementation notes

A `Scene` tells who holds a reference, and what was said to the backend. Neither is of interest
here: a sweep may take any retired program out, and a job may be done at any moment. What a scene
leaves open is told here, namely what requests are built from.

A request reads its text together with its first section. The text may be any, so nothing is lost by
that.
-/

namespace ShaderBundle

/-- How far a request in flight has come. -/
inductive Progress where
  /-- Its source was read and taken apart, and waits to be built. -/
  | waiting (prepared : Registry.Prepared)
  /-- Its outcome is there, and waits to be recorded. -/
  | finished (outcome : Outcome)

/-- What a request has come to when its source was read. -/
def Progress.of : Except Failure Registry.Prepared → Progress
  | .ok prepared => .waiting prepared
  | .error failure => .finished (.error failure)

/-- The programs of an outcome that is not recorded yet. -/
def Progress.programs : Progress → List ProgramRef
  | waiting _ => []
  | finished outcome => outcome.programs

/-- A request in flight. -/
structure Errand where
  /-- The request. -/
  request : Request
  /-- The snapshot that the program in use was built from, if there is one. -/
  previous : Option Source
  /-- How far it has come. -/
  progress : Progress

/-- A program took the place of another one under a live handle. -/
structure Renewal where
  /-- The handle. -/
  handle : Handle
  /-- The snapshot that the old program was built from. -/
  before : Source
  /-- The snapshot that the new one was built from. -/
  after : Source
  deriving DecidableEq, Repr

/-- What an outcome renews when it is recorded. -/
def Slots.renewals (table : Slots) : Request → Outcome → List Renewal
  | .reload _ handle, .ok (source, _) =>
    (table.entry? handle).toList.map fun entry => ⟨handle, entry.source, source⟩
  | .reload _ _, .error _ | .acquire _, _ => []

/-- A registry in service. -/
structure Service (σ : Type) where
  /-- The table, with what callers have of it. -/
  traffic : Traffic := {}
  /-- The graphics thread. -/
  thread : Thread σ
  /-- The requests in flight. -/
  errands : List Errand := []
  /-- The programs that were built, with what from. -/
  built : List (ProgramRef × Registry.Prepared) := []
  /-- The programs that took the place of others, in order. -/
  renewals : List Renewal := []

namespace Service

variable {σ : Type}

/-- Nothing was done yet, over a backend in some state. -/
def new (device : σ) : Service σ :=
  { thread := { device } }

/-- What callers see. -/
def registry (service : Service σ) : Registry σ :=
  { table := service.traffic.table, thread := service.thread }

/-- The references that somebody owns: the table, an outcome that is not recorded yet, or an order
to destroy. -/
def refs (service : Service σ) : List ProgramRef :=
  service.traffic.table.held ++ service.errands.flatMap (·.progress.programs) ++
    service.thread.queue.flatMap (·.task.destroyed)

/-! ### What happens -/

/-- A request begins with a section. -/
def begun (service : Service σ) (step : Section) (errand : Errand) : Service σ :=
  { service with traffic := service.traffic.after step, errands := service.errands ++ [errand] }

/-- A program is built for a request. -/
def builtFor (service : Service σ) (backend : Backend σ) (validate : Bool)
    (before after : List Errand) (errand : Errand) (prepared : Registry.Prepared) : Service σ :=
  let answer := service.thread.build backend prepared.bundle validate
  { service with
    thread := answer.2
    errands := before ++
      { errand with progress := .finished (Scene.outcomeOf prepared answer.1) } :: after
    built := service.built ++ answer.1.toOption.toList.map fun ref => (ref, prepared) }

/-- The outcome for a request is recorded. -/
def concluded (service : Service σ) (before after : List Errand) (request : Request)
    (outcome : Outcome) : Service σ :=
  { service with
    traffic := service.traffic.after (request.conclusion outcome)
    errands := before ++ after
    renewals := service.renewals ++ service.traffic.table.renewals request outcome }

/-- Retired programs are taken out of the table and are to be destroyed. -/
def swept (service : Service σ) (isHeld : ProgramRef → Bool) : Service σ :=
  { service with
    traffic := service.traffic.after (.sweep isHeld)
    thread := service.thread.handling (service.thread.queue ++
      (service.traffic.table.sweep isHeld).1.map fun ref => .destroy [ref]) service.thread.running }

/-- What the graphics thread or a caller does next. Texts come from loaders of some kind. -/
inductive Step (backend : Backend σ) (options : RegistryOptions) (loaders : Loader Id → Prop)
    (service : Service σ) : Service σ → Prop where
  /-- A caller goes through a section and is done. -/
  | enter {step : Section} (hplain : step.IsPlain)
    (hinFlight : (service.traffic.after step).inFlight = service.traffic.inFlight) :
    Step backend options loaders service { service with traffic := service.traffic.after step }
  /-- A caller claims a name and reads its text. -/
  | acquire {loader : Loader Id} (hloader : loaders loader) {name : Text}
    (hclaim : (service.traffic.table.claim name).1 = .claimed) :
    Step backend options loaders service (service.begun (.claim name)
      ⟨.acquire name, none, .of (Registry.prepare ⟨backend, loader, options⟩ name none)⟩)
  /-- A caller marks a name and reads its text again. -/
  | reload {loader : Loader Id} (hloader : loaders loader) {name : Text} {handle : Handle}
    {source : Source} (hmark : (service.traffic.table.mark name).1 = .marked handle source) :
    Step backend options loaders service (service.begun (.mark name)
      ⟨.reload name handle, some source,
        .of (Registry.prepare ⟨backend, loader, options⟩ name (some source))⟩)
  /-- The graphics thread builds for a request. -/
  | build {before after : List Errand} {errand : Errand} {prepared : Registry.Prepared}
    (herrands : service.errands = before ++ errand :: after)
    (hprogress : errand.progress = .waiting prepared) :
    Step backend options loaders service
      (service.builtFor backend options.validate before after errand prepared)
  /-- A caller records the outcome of its request. -/
  | conclude {before after : List Errand} {errand : Errand} {outcome : Outcome}
    (herrands : service.errands = before ++ errand :: after)
    (hprogress : errand.progress = .finished outcome) :
    Step backend options loaders service
      (service.concluded before after errand.request outcome)
  /-- A caller sweeps. -/
  | sweep (isHeld : ProgramRef → Bool) : Step backend options loaders service (service.swept isHeld)
  /-- The graphics thread carries the oldest order out. -/
  | obey {order : Order} {rest : List Order} (hqueue : service.thread.queue = order :: rest) :
    Step backend options loaders service
      { service with
        thread := (service.thread.handling rest service.thread.running).obey backend order }
  /-- A caller leaves an order that destroys nothing. -/
  | submit {order : Order} (horder : order.task.destroyed = []) :
    Step backend options loaders service { service with thread := service.thread.submit order }
  /-- Something is done with a program. -/
  | visit {ref : ProgramRef} {program : Program}
    (hprogram : service.thread.program? ref = some program) (visit : Program.Visit) :
    Step backend options loaders service
      { service with thread := (service.thread.withProgram ref program (visit.job backend)).2 }
  /-- No program is made current. -/
  | unuse : Step backend options loaders service
      { service with thread := (service.thread.perform (backend.use none)).2 }
  /-- A job of `run` begins or ends. -/
  | hold (programs : List ProgramRef) :
    Step backend options loaders service
      { service with thread := service.thread.handling service.thread.queue programs }

/-- Steps lead from one state to another. -/
inductive Reached (backend : Backend σ) (options : RegistryOptions) (loaders : Loader Id → Prop)
    (service : Service σ) : Service σ → Prop where
  | refl : Reached backend options loaders service service
  | step {middle later : Service σ} (h : Reached backend options loaders service middle)
    (hstep : Step backend options loaders middle later) :
    Reached backend options loaders service later

variable {backend : Backend σ} {options : RegistryOptions} {loaders : Loader Id → Prop}
  {service later : Service σ} {name : Text} {handle : Handle} {ref : ProgramRef}

theorem Reached.trans {middle : Service σ} (h : Reached backend options loaders service middle)
    (h' : Reached backend options loaders middle later) :
    Reached backend options loaders service later := by
  induction h' with
  | refl => exact h
  | step _ hstep ih => exact ih.step hstep

/-! ### Callers -/

/-- Everything in the table is accounted for by callers and errands. -/
structure Regular (service : Service σ) : Prop where
  /-- What callers have. -/
  owned : service.traffic.Owned
  /-- No name is in the table twice. -/
  keyed : service.traffic.table.Keyed
  /-- The requests in flight are those of the errands. -/
  requests : ∀ request, (service.errands.map Errand.request).count request =
    service.traffic.inFlight.count request

theorem Regular.mem_inFlight (h : service.Regular) {errand : Errand}
    (hmem : errand ∈ service.errands) : errand.request ∈ service.traffic.inFlight := by
  have hpos := List.count_pos_iff.mpr (List.mem_map_of_mem (f := Errand.request) hmem)
  rw [h.requests] at hpos
  exact List.count_pos_iff.mp hpos

theorem Regular.begun (h : service.Regular) {step : Section} (hplain : step.IsPlain)
    (errand : Errand) (hinFlight : (service.traffic.after step).inFlight =
      service.traffic.inFlight ++ [errand.request]) : (service.begun step errand).Regular where
  owned := h.owned.after step (hplain.allows _)
  keyed := (Traffic.holds_after h.owned h.keyed (hplain.allows _) hplain.ne_sweep).keyed
  requests request := by
    simp only [Service.begun, List.map_append, List.map_cons, List.map_nil, List.count_append,
      h.requests, hinFlight]

theorem Regular.concluded (h : service.Regular) {before after : List Errand} {errand : Errand}
    (herrands : service.errands = before ++ errand :: after) (outcome : Outcome) :
    (service.concluded before after errand.request outcome).Regular := by
  have hmem := h.mem_inFlight (herrands ▸ List.mem_append_right _ List.mem_cons_self)
  have hallows := Traffic.allows_conclusion hmem outcome
  refine ⟨h.owned.after _ hallows, (Traffic.holds_after h.owned h.keyed hallows
    (errand.request.conclusion_ne_sweep outcome)).keyed, fun request => ?_⟩
  have hcount := h.requests request
  rw [herrands] at hcount
  simp only [Service.concluded, Traffic.inFlight_conclusion, List.count_erase, List.map_append,
    List.map_cons, List.count_append, List.count_cons] at hcount ⊢
  omega

theorem Regular.step (h : service.Regular) (hstep : Step backend options loaders service later) :
    later.Regular := by
  cases hstep with
  | enter hplain hinFlight =>
    exact ⟨h.owned.after _ (hplain.allows _),
      (Traffic.holds_after h.owned h.keyed (hplain.allows _) hplain.ne_sweep).keyed,
      fun request => (h.requests request).trans (by rw [hinFlight])⟩
  | @acquire _ _ name hclaim =>
    exact h.begun (show (Section.claim name).IsPlain from trivial) _ (Traffic.inFlight_claim hclaim)
  | @reload _ _ name _ _ hmark =>
    exact h.begun (show (Section.mark name).IsPlain from trivial) _ (Traffic.inFlight_mark hmark)
  | build herrands _ =>
    refine ⟨h.owned, h.keyed, fun request => (Eq.trans ?_ (h.requests request))⟩
    simp [builtFor, herrands]
  | conclude herrands _ => exact h.concluded herrands _
  | sweep isHeld => exact ⟨h.owned.after (.sweep isHeld) trivial, h.keyed, h.requests⟩
  | obey _ | submit _ | visit _ _ | unuse | hold _ => exact ⟨h.owned, h.keyed, h.requests⟩

theorem regular_new (device : σ) : (new device).Regular where
  owned := Traffic.owned_empty
  keyed := List.nodup_nil
  requests _ := rfl

theorem Reached.regular {device : σ} (h : Reached backend options loaders (new device) service) :
    service.Regular := by
  induction h with
  | refl => exact regular_new device
  | step _ hstep ih => exact ih.step hstep

end Service

end ShaderBundle
