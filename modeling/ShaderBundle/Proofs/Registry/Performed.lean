import ShaderBundle.Proofs.Registry.Operations
import ShaderBundle.Proofs.Registry.Service

/-!
# Requests one after the other

What a registry does for one caller, while nobody else is there, are steps of a registry in service.
So what can be said of every registry in service when no request is in flight can be said behind
every sequence of requests.

## Two views of a registry

The steps of a service are what any number of callers and the graphics thread do between them, and
everything that is known of handles, versions and statuses is an invariant of these. Requests as a
whole are what a program sees that uses a registry. The bridge is one-sided: a whole request is a
run of steps with no request in flight at its ends (`Serves`). About the other direction, whether a
run comes from whole requests, nothing is said.

The record of what was built and renewed belongs to the service. It is not in the registry, so
`Reachable` asserts that there is one; different histories may lead to the same registry.

## Loaders

A request reads texts through a loader, and every request may come with another one. What is assumed
of loaders, such as that they give out first versions, is a parameter and is asked of the loader of
each request.

## Main definitions

* `Registry.Reachable`: a registry that has been in service, and has no request in flight.
* `Registry.Operation` lists the requests that callers make outside of graphics jobs, and
  `Registry.Performs` is what comes of one.
* `Registry.Serves`: steps lead from one registry to another.

## Main results

* `Registry.Performs.serves`: steps lead to whatever comes of a request.
* `Registry.Reachable.performs`: so a registry can be reached behind it.

## Implementation notes

The names that `reloadChanged` looks after come in any order here.
-/

namespace ShaderBundle.Registry

variable {σ : Type} {backend : Backend σ} {options : RegistryOptions} {loaders : Loader Id → Prop}
  {registry registry' registry'' later : Registry σ}

/-- A registry that was in service and has no request in flight. -/
def Reachable (backend : Backend σ) (options : RegistryOptions) (loaders : Loader Id → Prop)
    (registry : Registry σ) : Prop :=
  ∃ device service, Service.Reached backend options loaders (.new device) service ∧
    service.errands = [] ∧ service.registry = registry

/-- Steps lead from one registry to another, with no request in flight before or behind. -/
def Serves (backend : Backend σ) (options : RegistryOptions) (loaders : Loader Id → Prop)
    (registry later : Registry σ) : Prop :=
  ∀ service : Service σ, service.errands = [] → service.registry = registry →
    ∃ after, Service.Reached backend options loaders service after ∧ after.errands = [] ∧
      after.registry = later

theorem Reachable.serves (h : Reachable backend options loaders registry)
    (hserves : Serves backend options loaders registry later) :
    Reachable backend options loaders later := by
  obtain ⟨device, service, hreached, herrands, hregistry⟩ := h
  obtain ⟨after, hafter, herrands', hregistry'⟩ := hserves service herrands hregistry
  exact ⟨device, after, hreached.trans hafter, herrands', hregistry'⟩

theorem serves_refl (registry : Registry σ) : Serves backend options loaders registry registry :=
  fun service herrands hregistry => ⟨service, .refl, herrands, hregistry⟩

theorem Serves.trans (h : Serves backend options loaders registry registry')
    (h' : Serves backend options loaders registry' registry'') :
    Serves backend options loaders registry registry'' := by
  intro service herrands hregistry
  obtain ⟨middle, hmiddle, herrands', hregistry'⟩ := h service herrands hregistry
  obtain ⟨after, hafter, herrands'', hregistry''⟩ := h' middle herrands' hregistry'
  exact ⟨after, hmiddle.trans hafter, herrands'', hregistry''⟩

/-! ### Steps

Pieces of requests: the thread does something, a caller goes through a section, a request begins, is
built for and is concluded. The last of these are put together at once, since in between a request
is in flight. -/

/-- The graphics thread does something. -/
theorem serves_thread {thread : Thread σ}
    (h : ∀ service : Service σ, service.registry = registry →
      Service.Step backend options loaders service { service with thread }) :
    Serves backend options loaders registry { registry with thread } := by
  rintro service herrands rfl
  exact ⟨_, Service.Reached.refl.step (h service rfl), herrands, rfl⟩

theorem reached_drain (backend : Backend σ) (options : RegistryOptions) (loaders : Loader Id → Prop)
    (service : Service σ) : Service.Reached backend options loaders service
      { service with thread := service.thread.drain backend } := by
  induction hqueue : service.thread.queue generalizing service with
  | nil =>
    rw [Thread.drain_of_nil hqueue]
    exact .refl
  | cons order rest ih =>
    -- One order is a step, and the rest follows from the thread behind it.
    let thread := (service.thread.handling rest service.thread.running).obey backend order
    have hrest : thread.queue = rest := by
      simp only [thread, Thread.obey_handling]
      rfl
    have hnext := ih { service with thread } hrest
    rw [Thread.drain_cons hqueue]
    exact (Service.Reached.refl.step (.obey hqueue)).trans hnext

theorem serves_drain (registry : Registry σ) : Serves backend options loaders registry
    { registry with thread := registry.thread.drain backend } := by
  rintro service herrands rfl
  exact ⟨_, reached_drain backend options loaders service, herrands, rfl⟩

theorem serves_sweep (registry : Registry σ) :
    Serves backend options loaders registry registry.sweep := by
  rintro service herrands rfl
  refine ⟨_, Service.Reached.refl.step (.sweep service.thread.holds), herrands, ?_⟩
  rw [sweep_eq]
  rfl

/-- A caller goes through a section. -/
theorem serves_enter {step : Section} (hplain : step.IsPlain) {table : Slots}
    (h : ∀ traffic : Traffic, traffic.table = registry.table →
      (traffic.after step).table = table ∧ (traffic.after step).inFlight = traffic.inFlight) :
    Serves backend options loaders registry { registry with table } := by
  rintro service herrands rfl
  obtain ⟨htable, hinFlight⟩ := h service.traffic rfl
  refine ⟨_, Service.Reached.refl.step (.enter hplain hinFlight), herrands, ?_⟩
  rw [Service.registry, htable]
  rfl

/-- A request fails before anything is built. -/
theorem serves_failed {step : Section} {request : Request} {previous : Option Source}
    {failure : Failure} {table : Slots}
    (hbegin : ∀ service : Service σ, service.registry = registry →
      Service.Step backend options loaders service
        (service.begun step ⟨request, previous, .finished (.error failure)⟩))
    (htable : ∀ traffic : Traffic, traffic.table = registry.table →
      ((traffic.after step).after (request.conclusion (.error failure))).table = table) :
    Serves backend options loaders registry { registry with table } := by
  rintro service herrands rfl
  have hone : (service.begun step ⟨request, previous, .finished (.error failure)⟩).errands =
      [] ++ ⟨request, previous, .finished (.error failure)⟩ :: [] := by
    rw [Service.begun, herrands]
  refine ⟨_, (Service.Reached.refl.step (hbegin service rfl)).step (.conclude hone rfl), rfl, ?_⟩
  rw [Service.registry, Service.concluded, Service.begun, htable service.traffic rfl]
  rfl

/-- A request is built for behind the orders that wait. -/
theorem serves_built {step : Section} {request : Request} {previous : Option Source}
    {prepared : Prepared} {table : Slots}
    (hbegin : ∀ service : Service σ, service.registry = registry →
      Service.Step backend options loaders service
        (service.begun step ⟨request, previous, .waiting prepared⟩))
    (htable : ∀ traffic : Traffic, traffic.table = registry.table →
      ((traffic.after step).after (request.conclusion (Scene.outcomeOf prepared
        ((registry.thread.drain backend).build backend prepared.bundle
          options.validate).1))).table =
          table) :
    Serves backend options loaders registry
      { registry with
        table
        thread := ((registry.thread.drain backend).build backend prepared.bundle
          options.validate).2 } := by
  rintro service herrands rfl
  let errand : Errand := ⟨request, previous, .waiting prepared⟩
  let begun : Service σ := service.begun step errand
  have hone : begun.errands = [] ++ errand :: [] := by
    simp only [begun, Service.begun, herrands]
  -- The request begins, the orders that wait are carried out, and it is built for.
  have hbuild := ((Service.Reached.refl.step (hbegin service rfl)).trans
    (reached_drain backend options loaders begun)).step (.build hone rfl)
  refine ⟨_, hbuild.step (.conclude rfl rfl), rfl, ?_⟩
  rw [Service.registry, Service.concluded]
  exact congrArg (fun table => ({ table, thread := _ } : Registry σ)) (htable service.traffic rfl)

/-! ### Requests

Each request is taken apart along its definition. Lookups of either kind of name, questions and
orders are visits or less. -/

/-- A caller asks for a name. -/
theorem serves_acquire (around : Surroundings σ) (hloader : loaders around.loader) (name : Text)
    (registry : Registry σ) : Serves around.backend around.options loaders registry
      (acquire around .outside name registry).2 := by
  -- Unless it claims the name, the section is the whole request.
  have hpassed : ∀ (claim : Slots.Claim) (table : Slots), claim ≠ .claimed →
      registry.table.claim name = (claim, table) →
      Serves around.backend around.options loaders registry { registry with table } := by
    intro claim table hne hclaim
    refine serves_enter (show (Section.claim name).IsPlain from trivial) fun traffic htable => ?_
    rw [← htable] at hclaim
    exact ⟨by rw [traffic.table_claim, hclaim], Traffic.inFlight_claim_of_ne (by rwa [hclaim])⟩
  rw [acquire, beginAcquire]
  rcases hclaim : registry.table.claim name with ⟨_ | _ | _ | _, table⟩
  · exact hpassed _ _ (by simp) hclaim
  · exact hpassed _ _ (by simp) hclaim
  · exact hpassed _ _ (by simp) hclaim
  -- The name is claimed. The text is read with the claim.
  · have hbegin : ∀ service : Service σ, service.registry = registry →
        Service.Step around.backend around.options loaders service (service.begun (.claim name)
          ⟨.acquire name, none, .of (prepare around name none)⟩) := by
      rintro service rfl
      exact .acquire hloader (congrArg Prod.fst hclaim)
    have htable : ∀ (outcome : Outcome) (traffic : Traffic), traffic.table = registry.table →
        ((traffic.after (.claim name)).after
          (Request.conclusion (.acquire name) outcome)).table = (table.settle name outcome).2 := by
      intro outcome traffic htable
      rw [traffic.table_conclusion_acquire, htable, hclaim]
    simp only []
    rcases hprepare : prepare around name none with failure | prepared
    · rw [hprepare] at hbegin
      exact serves_failed hbegin (htable _)
    · rw [hprepare] at hbegin
      simp only [buildNow_catchUp, finishAcquire]
      exact serves_built hbegin (htable _)

theorem serves_release (handle : Handle) (registry : Registry σ) :
    Serves backend options loaders registry (release handle registry).2 := by
  have hsection : Serves backend options loaders registry
      { registry with table := (registry.table.release handle).2 } :=
    serves_enter (show (Section.release handle).IsPlain from trivial) fun traffic htable =>
      ⟨by rw [traffic.table_release, htable], traffic.inFlight_release handle⟩
  rw [release]
  rcases hrelease : registry.table.release handle with ⟨_ | _ | _, table⟩
  all_goals rw [hrelease] at hsection
  · exact serves_refl registry
  · exact hsection
  · exact hsection.trans (serves_sweep _)

/-- A caller asks for a new program for a name. -/
theorem serves_reload (around : Surroundings σ) (hloader : loaders around.loader) (name : Text)
    (registry : Registry σ) : Serves around.backend around.options loaders registry
      (reload around .outside name registry).2 := by
  rw [reload, beginReload]
  rcases hmark : registry.table.mark name with ⟨⟨handle, source⟩ | _ | _, table⟩
  -- The name is marked, and the text is read against the snapshot of the entry.
  · have hbegin : ∀ service : Service σ, service.registry = registry →
        Service.Step around.backend around.options loaders service (service.begun (.mark name)
          ⟨.reload name handle, some source, .of (prepare around name (some source))⟩) := by
      rintro service rfl
      exact .reload hloader (congrArg Prod.fst hmark)
    have htable : ∀ (outcome : Outcome) (traffic : Traffic), traffic.table = registry.table →
        ((traffic.after (.mark name)).after
          (Request.conclusion (.reload name handle) outcome)).table =
          (table.replace name handle outcome).2 := by
      intro outcome traffic htable
      rw [traffic.table_conclusion_reload, htable, hmark]
    simp only []
    rcases hprepare : prepare around name (some source) with failure | prepared
    · rw [hprepare] at hbegin
      exact (serves_failed hbegin (htable _)).trans (serves_sweep _)
    · rw [hprepare] at hbegin
      simp only [buildNow_catchUp, finishReload]
      exact (serves_built hbegin (htable _)).trans (serves_sweep _)
  · exact serves_refl registry
  · exact serves_refl registry

theorem serves_clearFailed (name : Text) (registry : Registry σ) :
    Serves backend options loaders registry
      { registry with table := (registry.table.clearFailed name).2 } :=
  serves_enter (show (Section.clearFailed name).IsPlain from trivial) fun traffic htable => by
    simp only [Traffic.after, htable, and_self]

/-- A caller looks after names whose texts have changed. -/
theorem serves_reloadChangedOf (around : Surroundings σ) (hloader : loaders around.loader)
    (candidates : List (Text × Slots.Candidate)) (registry : Registry σ) :
    Serves around.backend around.options loaders registry
      (reloadChangedOf around .outside candidates registry).2 := by
  induction candidates generalizing registry with
  | nil => exact serves_refl registry
  | cons entry rest ih =>
    obtain ⟨name, candidate⟩ := entry
    rw [reloadChangedOf]
    cases changeOf around.loader name candidate with
    | nothing => exact ih registry
    | unreadable error => exact ih registry
    | reload => exact (serves_reload around hloader name registry).trans (ih _)
    | forget => exact (serves_clearFailed name registry).trans (ih _)

theorem serves_submit {order : Order} (horder : order.task.destroyed = []) (registry : Registry σ) :
    Serves backend options loaders registry
      { registry with thread := registry.thread.submit order } :=
  serves_thread fun service hregistry => by
    obtain rfl := hregistry
    exact .submit horder

theorem serves_bind (handle : Handle) (registry : Registry σ) :
    Serves backend options loaders registry (bind handle registry) := by
  rw [bind]
  rcases registry.program? handle with _ | ⟨ref, program⟩
  · exact serves_refl registry
  · exact serves_submit rfl registry

theorem serves_visit {ref : ProgramRef} {program : Program}
    (hprogram : registry.thread.program? ref = some program) (visit : Program.Visit) :
    Serves backend options loaders registry
      { registry with thread := (registry.thread.withProgram ref program (visit.job backend)).2 } :=
  serves_thread fun service hregistry => by
    obtain rfl := hregistry
    exact .visit hprogram visit

/-- A caller has something done with a program and waits for the answer. -/
theorem serves_ask (around : Surroundings σ) (handle : Handle) (visit : Program.Visit)
    (registry : Registry σ) : Serves around.backend options loaders registry
      (ask around .outside handle (visit.job around.backend) registry).2 := by
  rw [ask]
  rcases registry.program? handle with _ | ⟨ref, object⟩
  · exact serves_refl registry
  · have hdrain : Serves around.backend options loaders registry
        { registry with thread := registry.thread.drain around.backend } := serves_drain registry
    simp only []
    -- The object is looked up again behind the orders.
    rcases hprogram : (registry.thread.drain around.backend).program? ref with _ | program
    · exact hdrain
    · have hvisit := hdrain.trans (serves_visit hprogram visit)
      simp only []
      rcases hcase : (registry.thread.drain around.backend).withProgram ref program
        (visit.job around.backend) with ⟨_ | _, thread⟩
      all_goals
        rw [hcase] at hvisit
        exact hvisit

theorem serves_location (around : Surroundings σ) (handle : Handle) (kind : NameKind) (name : Text)
    (registry : Registry σ) : Serves around.backend options loaders registry
      (location around .outside handle kind name registry).2 := by
  rcases snd_location around .outside handle kind name registry with hsame | ⟨visit, hask⟩
  · rw [hsame]
    exact serves_refl registry
  · rw [hask]
    exact serves_ask around handle visit registry

/-! ### Jobs

A job of `run` visits programs in its reach and may make none current. What it asks of the registry
itself is refused or changes the table; the latter is not considered here, so the table is as it was
behind a job. -/

/-- What a job of `run` does with the programs in its reach. -/
inductive Rendered (backend : Backend σ) (reach : Frame) (registry : Registry σ) :
    Registry σ → Prop where
  | refl : Rendered backend reach registry registry
  | visit {middle : Registry σ} (h : Rendered backend reach registry middle) (handle : Handle)
    (visit : Program.Visit) (otherwise : visit.Answer) :
    Rendered backend reach registry
      (reach.withProgram handle otherwise (visit.job backend) middle).2
  | unuse {middle : Registry σ} (h : Rendered backend reach registry middle) :
    Rendered backend reach registry (Frame.unbind backend middle).2

theorem Rendered.serves {reach : Frame} (h : Rendered backend reach registry later) :
    Serves backend options loaders registry later := by
  induction h with
  | refl => exact serves_refl registry
  | @visit middle _ handle visit otherwise ih =>
    refine ih.trans ?_
    rw [Frame.withProgram]
    rcases reach.programs.lookup handle with _ | ref
    · exact serves_refl middle
    · simp only []
      rcases hprogram : middle.thread.program? ref with _ | program
      · exact serves_refl middle
      · exact serves_visit hprogram visit
  | unuse _ ih => exact ih.trans (serves_thread fun service hregistry => by
      obtain rfl := hregistry
      exact .unuse)

/-- The table is left alone by such a job. -/
theorem Rendered.table {reach : Frame} (h : Rendered backend reach registry later) :
    later.table = registry.table := by
  induction h with
  | refl => rfl
  | visit _ handle visit otherwise ih =>
    rw [Frame.withProgram]
    split
    · exact ih
    · split
      · exact ih
      · exact ih
  | unuse _ ih => exact ih

theorem serves_hold (programs : List ProgramRef) (registry : Registry σ) :
    Serves backend options loaders registry
      { registry with thread := registry.thread.handling registry.thread.queue programs } :=
  serves_thread fun service hregistry => by
    obtain rfl := hregistry
    exact .hold programs

/-- A caller has a job done. -/
theorem serves_run (around : Surroundings σ) {α : Type}
    (job : Frame → Registry σ → Option α × Registry σ)
    (hjob : ∀ reach registry, Rendered around.backend reach registry (job reach registry).2)
    (registry : Registry σ) : Serves around.backend options loaders registry
      (run around .outside job registry).2 := by
  let refs := registry.frame.programs.map Prod.snd
  let drained : Registry σ := { registry with thread := registry.thread.drain around.backend }
  let started : Registry σ :=
    { drained with thread := drained.thread.handling drained.thread.queue refs }
  have hdrain : Serves around.backend options loaders registry drained := serves_drain registry
  -- The thread notes who holds what while the job works.
  have hstart : Serves around.backend options loaders drained started := serves_hold refs drained
  have hwork := (hdrain.trans hstart).trans (hjob registry.frame started).serves
  have hdone := (hwork.trans (serves_hold [] _)).trans (serves_sweep _)
  rcases hcase : job registry.frame started with ⟨answer, worked⟩
  rw [hcase] at hdone
  have hcase' : job registry.frame { registry with
      thread := { registry.thread.drain around.backend with
        running := registry.frame.programs.map Prod.snd } } = (answer, worked) := hcase
  simp only [run, hcase']
  cases answer <;> exact hdone

/-! ### Sequences

Operations are told apart by what they may do to the states of names. Everything that only uses
programs is one of them. -/

/-- A request that callers make outside of graphics jobs. -/
inductive Operation where
  | acquire (name : Text)
  | release (handle : Handle)
  | reload (name : Text)
  | reloadChanged
  | clearFailed (name : Text)
  /-- Programs are used, or nothing is asked for. -/
  | use
  deriving DecidableEq, Repr

/-- What comes of a request. -/
inductive Performs (around : Surroundings σ) (registry : Registry σ) :
    Operation → Registry σ → Prop where
  | acquire (name : Text) :
    Performs around registry (.acquire name) (acquire around .outside name registry).2
  | release (handle : Handle) : Performs around registry (.release handle)
    (release handle registry).2
  | reload (name : Text) :
    Performs around registry (.reload name) (reload around .outside name registry).2
  | reloadChanged {order : List (Text × Slots.Candidate)}
    (horder : order.Perm registry.table.candidates) :
    Performs around registry .reloadChanged (reloadChangedOf around .outside order registry).2
  | clearFailed (name : Text) : Performs around registry (.clearFailed name)
      { registry with table := (registry.table.clearFailed name).2 }
  | uniform (handle : Handle) (name : Text) :
    Performs around registry .use (uniform around .outside handle name registry).2
  | attributeLocation (handle : Handle) (name : Text) :
    Performs around registry .use (attributeLocation around .outside handle name registry).2
  | uniforms (handle : Handle) :
    Performs around registry .use (uniforms around .outside handle registry).2
  | setUniform (handle : Handle) (name : Text) (value : UniformValue) :
    Performs around registry .use (setUniform around .outside handle name value registry).2
  | bind (handle : Handle) : Performs around registry .use (bind handle registry)
  | unbind : Performs around registry .use (unbind registry)
  | run {α : Type} (job : Frame → Registry σ → Option α × Registry σ)
    (hjob : ∀ reach registry, Rendered around.backend reach registry (job reach registry).2) :
    Performs around registry .use (run around .outside job registry).2
  | rest : Performs around registry .use (rest around registry)

/-- **Steps lead to whatever comes of a request.** -/
theorem Performs.serves {around : Surroundings σ} {operation : Operation}
    (h : Performs around registry operation later) (hloader : loaders around.loader) :
    Serves around.backend around.options loaders registry later := by
  cases h with
  | acquire name => exact serves_acquire around hloader name registry
  | release handle => exact serves_release handle registry
  | reload name => exact serves_reload around hloader name registry
  | reloadChanged _ => exact serves_reloadChangedOf around hloader _ registry
  | clearFailed name => exact serves_clearFailed name registry
  | uniform handle name => exact serves_location around handle .uniform name registry
  | attributeLocation handle name => exact serves_location around handle .attrib name registry
  | uniforms handle => exact serves_ask around handle .list registry
  | setUniform handle name value => exact serves_ask around handle (.set name value) registry
  | bind handle => exact serves_bind handle registry
  | unbind => exact serves_submit rfl registry
  | run job hjob => exact serves_run around job hjob registry
  | rest => exact ((serves_drain registry).trans (serves_sweep _)).trans (serves_drain _)

/-- A registry can be reached behind a request if it can be reached before. -/
theorem Reachable.performs {around : Surroundings σ} {operation : Operation}
    (h : Reachable around.backend around.options loaders registry) (hloader : loaders around.loader)
    (hperforms : Performs around registry operation later) :
    Reachable around.backend around.options loaders later :=
  h.serves (hperforms.serves hloader)

end ShaderBundle.Registry
