import ShaderBundle.Proofs.Registry.Staged

/-!
# Registries in use

Everything that callers can do with a registry, one after the other, is enacted on the scene. So
what holds however callers and the graphics thread interleave holds of every registry in use, and of
what becomes of it when it is closed.

## Calls and steps

A scene has small steps: one section, one job made, one turn. A call of a registry is a whole
function, in which sections, orders and builds follow one another with case distinctions in between.
For each call it is shown that it is some steps, by following its definition once; the states of
names are not looked into, as a section is a step whatever it does. Calls are then composed like
steps.

The calls include those that are made from within a job. Of a job of `run` it is known only that it
makes calls (`Worked`), in any number and order, and what it does otherwise is its own business.

## What is left out

There is one caller here, and the graphics thread comes in when the call needs it. That several
callers are at work at once is what scenes are for, and a registry in use is a special case of them;
the point of this module is that the special case is one, so nothing has to be shown again for it.

## Main definitions

* `Registry.location`: the lookup of a name of either kind.
* `Registry.Worked`: what a job of `run` does with a registry.
* `Registry.Operated`: what callers do with a registry.

## Main results

* `Registry.Operated.enacts`: steps on the scene lead to every registry in use.
* `Registry.Staged.close`: to close a registry is to leave its scene to the graphics thread.
* `Registry.Operated.lives`: programs are named while they exist and deleted once, from beginning to
  end.
-/

namespace ShaderBundle.Registry

variable {σ : Type} {backend : Backend σ} {validate : Bool}
  {frame : Option (List ProgramRef)} {registry registry' : Registry (List Event × σ)}
  {scene : Scene σ}

/-! ### Whole requests

A request is a section, a build behind the orders that wait, and a section. If it is passed over or
its text is refused, it is less. -/

/-- A build behind the orders that wait, with nothing behind it. -/
theorem buildNow_catchUp (around : Surroundings σ) (prepared : Prepared) (registry : Registry σ) :
    buildNow around prepared (catchUp around registry) =
      (Scene.outcomeOf prepared ((registry.thread.drain around.backend).build around.backend
        prepared.bundle around.options.validate).1,
      { registry with
        thread := ((registry.thread.drain around.backend).build around.backend prepared.bundle
          around.options.validate).2 }) := by
  have hidle : ((registry.thread.drain around.backend).build around.backend prepared.bundle
      around.options.validate).2.queue = [] := by simp
  simp only [buildNow, construct_eq, catchUp, Thread.drain_of_nil hidle]

/-- A caller asks for a name. -/
theorem enacts_acquire (around : Surroundings σ) (caller : Caller) (name : Text)
    (registry : Registry (List Event × σ)) :
    Enacts around.backend around.options.validate none none registry
      (acquire around.recording caller name registry).2 := by
  cases caller with
  | job => exact enacts_refl registry
  | outside =>
    -- Unless it claims the name, the section is the whole request.
    have hpassed : ∀ (claim : Slots.Claim) (table : Slots), claim ≠ .claimed →
        registry.table.claim name = (claim, table) →
        Enacts around.backend around.options.validate none none registry
          { registry with table } := by
      intro claim table hne hclaim
      refine enacts_section (.claim name) trivial fun traffic htable => ?_
      rw [← htable] at hclaim
      exact ⟨by rw [traffic.table_claim, hclaim], Traffic.inFlight_claim_of_ne (by rwa [hclaim])⟩
    rw [acquire, beginAcquire]
    rcases hclaim : registry.table.claim name with ⟨_ | _ | _ | _, table⟩
    · exact hpassed _ _ (by simp) hclaim
    · exact hpassed _ _ (by simp) hclaim
    · exact hpassed _ _ (by simp) hclaim
    -- It does. What is recorded in the end is recorded for the claim, whatever else the scene
    -- knows.
    · have hafter : ∀ traffic : Traffic, traffic.table = registry.table → ∀ outcome,
          (traffic.after (.claim name)).inFlight = traffic.inFlight ++ [.acquire name] ∧
            ((traffic.after (.claim name)).after
              (Request.conclusion (.acquire name) outcome)).table =
                (table.settle name outcome).2 := by
        intro traffic htable outcome
        rw [← htable] at hclaim
        exact ⟨Traffic.inFlight_claim (by rw [hclaim]), by
          rw [traffic.table_conclusion_acquire, hclaim]⟩
      simp only []
      rcases hprepare : prepare around.recording name none with failure | prepared
      · exact enacts_failed (.claim name) trivial (.acquire name) failure fun traffic htable =>
          hafter traffic htable _
      · simp only [buildNow_catchUp, finishAcquire]
        exact enacts_drain.trans (enacts_built (.claim name) trivial (.acquire name) prepared
          (Thread.queue_drain _ _) fun traffic htable => hafter traffic htable _)

/-- A caller gives a reference back. -/
theorem enacts_give (handle : Handle) (registry : Registry (List Event × σ)) :
    Enacts backend validate frame frame registry (release handle registry).2 := by
  have hsection : Enacts backend validate frame frame registry
      { registry with table := (registry.table.release handle).2 } := enacts_release handle
  rw [release]
  rcases hrelease : registry.table.release handle with ⟨_ | _ | _, table⟩
  all_goals rw [hrelease] at hsection
  · exact enacts_refl registry
  · exact hsection
  · exact hsection.trans enacts_sweep

/-- A caller asks for a new program for a name. -/
theorem enacts_reload (around : Surroundings σ) (caller : Caller) (name : Text)
    (registry : Registry (List Event × σ)) :
    Enacts around.backend around.options.validate none none registry
      (reload around.recording caller name registry).2 := by
  cases caller with
  | job => exact enacts_refl registry
  | outside =>
    rw [reload, beginReload]
    rcases hmark : registry.table.mark name with ⟨⟨handle, source⟩ | _ | _, table⟩
    -- The name is marked, and the outcome is recorded for the mark.
    · have hafter : ∀ traffic : Traffic, traffic.table = registry.table → ∀ outcome,
          (traffic.after (.mark name)).inFlight = traffic.inFlight ++ [.reload name handle] ∧
            ((traffic.after (.mark name)).after
              (Request.conclusion (.reload name handle) outcome)).table =
                (table.replace name handle outcome).2 := by
        intro traffic htable outcome
        rw [← htable] at hmark
        exact ⟨Traffic.inFlight_mark (by rw [hmark]), by
          rw [traffic.table_conclusion_reload, hmark]⟩
      simp only []
      rcases hprepare : prepare around.recording name (some source) with failure | prepared
      · exact (enacts_failed (.mark name) trivial (.reload name handle) failure
          fun traffic htable => hafter traffic htable _).trans enacts_sweep
      · simp only [buildNow_catchUp, finishReload]
        exact (enacts_drain.trans (enacts_built (.mark name) trivial (.reload name handle) prepared
          (Thread.queue_drain _ _) fun traffic htable => hafter traffic htable _)).trans
            enacts_sweep
    · exact enacts_refl registry
    · exact enacts_refl registry

/-- A caller looks after all names whose texts have changed. -/
theorem enacts_reloadChangedOf (around : Surroundings σ) (caller : Caller)
    (candidates : List (Text × Slots.Candidate)) (registry : Registry (List Event × σ)) :
    Enacts around.backend around.options.validate none none registry
      (reloadChangedOf around.recording caller candidates registry).2 := by
  induction candidates generalizing registry with
  | nil => exact enacts_refl registry
  | cons entry rest ih =>
    obtain ⟨name, candidate⟩ := entry
    rw [reloadChangedOf]
    cases changeOf around.recording.loader name candidate with
    | nothing => exact ih registry
    | unreadable error => exact ih registry
    | reload => exact (enacts_reload around caller name registry).trans (ih _)
    | forget => exact (enacts_clearFailed name).trans (ih _)

/-! ### Programs in use

Questions and orders are about programs of live handles, and those are in the table. Lookups of
uniforms and of attributes go the same way and are said once, for the kind of name. -/

/-- The program of a live handle is in the table. -/
theorem mem_programs_of_program? {handle : Handle} {ref : ProgramRef} {program : Program}
    (h : registry.program? handle = some (ref, program)) : ref ∈ registry.table.programs := by
  obtain ⟨entry, hentry, hfound⟩ := Option.bind_eq_some_iff.mp h
  obtain ⟨object, -, hpair⟩ := Option.map_eq_some_iff.mp hfound
  obtain ⟨name, -, hslot, -⟩ := Slots.entry?_eq_some_iff.mp hentry
  rw [← (Prod.mk.inj hpair).1]
  exact Slots.mem_programs_iff.mpr ⟨name, entry, Slots.mem_of_slot? hslot, rfl⟩

/-- A caller has something done with a program and waits for the answer. -/
theorem enacts_ask (around : Surroundings σ) (caller : Caller) (handle : Handle)
    (visit : Program.Visit) (registry : Registry (List Event × σ)) :
    Enacts around.backend validate none none registry
      (ask around.recording caller handle (visit.job around.recording.backend) registry).2 := by
  cases caller with
  -- A job is refused, and nothing happens.
  | job =>
    rw [ask]
    cases registry.program? handle <;> exact enacts_refl registry
  | outside =>
    rw [ask]
    rcases hfound : registry.program? handle with _ | ⟨ref, object⟩
    · exact enacts_refl registry
    -- The orders that wait come first. They might destroy the object, as far as is known here.
    · let drained : Registry (List Event × σ) :=
        { registry with thread := registry.thread.drain around.backend.recording }
      have hdrain : Enacts around.backend validate none none registry drained := enacts_drain
      have hmem : ref ∈ registry.table.programs := mem_programs_of_program? hfound
      simp only []
      rcases hprogram : (registry.thread.drain around.recording.backend).program? ref
        with _ | program
      · exact hdrain
      · have hmem' : ref ∈ drained.table.programs := hmem
        have hprogram' : drained.thread.program? ref = some program := hprogram
        have hlook := hdrain.trans
          (enacts_look (Thread.queue_drain _ _) hmem' hprogram' visit)
        simp only []
        rcases hcase : (registry.thread.drain around.recording.backend).withProgram ref program
          (visit.job around.recording.backend) with ⟨_ | _, later⟩
        all_goals
          have hlater : (drained.thread.withProgram ref program
            (visit.job around.backend.recording)).2 = later := congrArg Prod.snd hcase
          rw [hlater] at hlook
          exact hlook

/-- The location of a name, uniform or attribute. -/
def location (around : Surroundings σ) (caller : Caller) (handle : Handle) (kind : NameKind)
    (name : Text) (registry : Registry σ) : Option Location × Registry σ :=
  match kind with
  | .uniform => uniform around caller handle name registry
  | .attrib => attributeLocation around caller handle name registry

/-- A location is remembered, or the graphics thread is asked for it, and then a question that gets
no answer comes to an inactive name. -/
theorem location_eq (around : Surroundings σ) (caller : Caller) (handle : Handle) (kind : NameKind)
    (name : Text) (registry : Registry σ) :
    location around caller handle kind name registry =
      match (registry.program? handle).bind fun found => (kind.answers found.2).get? name with
      | some answer => (answer, registry)
      | none =>
        let asked := ask around caller handle
          (fun program => kind.lookup around.backend program name) registry
        (match asked.1 with
          | .ok answer => answer
          | .error _ => none, asked.2) := by
  cases kind with
  | uniform =>
    simp only [location, uniform, NameKind.answers, NameKind.lookup]
    rcases (registry.program? handle).bind fun found => found.2.uniforms.get? name with _ | answer
    · rcases ask around caller handle (fun program => program.locateUniform around.backend name)
        registry with ⟨_ | _, _⟩ <;> rfl
    · rfl
  | attrib =>
    simp only [location, attributeLocation, NameKind.answers, NameKind.lookup]
    rcases (registry.program? handle).bind fun found => found.2.attributes.get? name with _ | answer
    · rcases ask around caller handle (fun program => program.locateAttribute around.backend name)
        registry with ⟨_ | _, _⟩ <;> rfl
    · rfl

/-- A location leaves the registry as it is, or as a visit does. -/
theorem snd_location (around : Surroundings σ) (caller : Caller) (handle : Handle) (kind : NameKind)
    (name : Text) (registry : Registry σ) :
    (location around caller handle kind name registry).2 = registry ∨
      ∃ visit : Program.Visit, (location around caller handle kind name registry).2 =
        (ask around caller handle (visit.job around.backend) registry).2 := by
  rw [location_eq]
  split
  · exact .inl rfl
  · cases kind with
    | uniform => exact .inr ⟨.locateUniform name, rfl⟩
    | attrib => exact .inr ⟨.locateAttribute name, rfl⟩

theorem enacts_location (around : Surroundings σ) (caller : Caller) (handle : Handle)
    (kind : NameKind) (name : Text) (registry : Registry (List Event × σ)) :
    Enacts around.backend validate none none registry
      (location around.recording caller handle kind name registry).2 := by
  rcases snd_location around.recording caller handle kind name registry with hsame | ⟨visit, hask⟩
  · rw [hsame]
    exact enacts_refl registry
  · rw [hask]
    exact enacts_ask around caller handle visit registry

/-- A caller orders a program to be made current. -/
theorem enacts_bind (handle : Handle) (registry : Registry (List Event × σ)) :
    Enacts backend validate frame frame registry (bind handle registry) := by
  rw [bind]
  rcases hfound : registry.program? handle with _ | ⟨ref, object⟩
  · exact enacts_refl registry
  · refine enacts_submit rfl fun other hother => ?_
    rw [List.mem_singleton.mp hother]
    exact mem_programs_of_program? hfound

theorem enacts_unbind (registry : Registry (List Event × σ)) :
    Enacts backend validate frame frame registry (unbind registry) :=
  enacts_submit rfl fun _ h => nomatch h

/-- A caller waits until nothing is left to be done. -/
theorem enacts_rest (around : Surroundings σ) (registry : Registry (List Event × σ)) :
    Enacts around.backend validate none none registry (rest around.recording registry) :=
  (enacts_drain.trans enacts_sweep).trans enacts_drain

/-! ### Frames

A frame is what a job may reach: the programs of the table at the moment when it was handed in.
While the job runs, the thread is shown as carrying out a visit to these. -/

/-- A caller has a job done with all programs in reach. -/
theorem enacts_run (around : Surroundings σ) {α : Type} (caller : Caller)
    (job : Frame → Registry (List Event × σ) → Option α × Registry (List Event × σ))
    (hjob : ∀ (frame : Frame) (registry : Registry (List Event × σ)),
      Enacts around.backend validate (some (frame.programs.map Prod.snd))
        (some (frame.programs.map Prod.snd)) registry (job frame registry).2)
    (registry : Registry (List Event × σ)) : Enacts around.backend validate none none registry
      (run around.recording caller job registry).2 := by
  cases caller with
  -- A job within a job is refused, and the sweep is made all the same.
  | job => exact enacts_sweep
  | outside =>
    -- The orders are carried out, the job takes references to the programs in reach, works and
    -- leaves.
    let refs := registry.frame.programs.map Prod.snd
    let drained : Registry (List Event × σ) :=
      { registry with thread := registry.thread.drain around.backend.recording }
    let started : Registry (List Event × σ) :=
      { drained with thread := drained.thread.handling drained.thread.queue refs }
    have hdrain : Enacts around.backend validate none none registry drained := enacts_drain
    have hrefs : ∀ ref ∈ refs, ref ∈ drained.table.programs := by
      intro ref href
      simp only [refs, frame, List.map_map] at href
      exact href
    have hstart : Enacts around.backend validate none (some refs) drained started :=
      enacts_enter (Thread.queue_drain _ _) hrefs
    have hdone := (((hdrain.trans hstart).trans (hjob registry.frame started)).trans
      enacts_leave).trans enacts_sweep
    rcases hcase : job registry.frame started with ⟨answer, later⟩
    rw [hcase] at hdone
    have hcase' : job registry.frame { registry with
        thread := { registry.thread.drain around.recording.backend with
          running := registry.frame.programs.map Prod.snd } } = (answer, later) := hcase
    simp only [run, hcase']
    cases answer <;> exact hdone

/-- In a job, something is done with a program in reach. -/
theorem enacts_withProgram (backend : Backend σ) (validate : Bool) (reach : Frame) (handle : Handle)
    (visit : Program.Visit) (otherwise : visit.Answer) (registry : Registry (List Event × σ)) :
    Enacts backend validate (some (reach.programs.map Prod.snd))
      (some (reach.programs.map Prod.snd)) registry
      (reach.withProgram handle otherwise (visit.job backend.recording) registry).2 := by
  rw [Frame.withProgram]
  rcases hreach : reach.programs.lookup handle with _ | ref
  · exact enacts_refl registry
  · simp only []
    rcases hprogram : registry.thread.program? ref with _ | program
    · exact enacts_refl registry
    · have hmem : (handle, ref) ∈ reach.programs := Slots.mem_of_lookup_eq_some hreach
      exact enacts_visit (List.mem_map_of_mem hmem) hprogram visit

/-! ### Everything that can be done

The calls are listed with everything that may differ from one to the next: the caller, the loader
and the job. The backend and the options are those of the registry. -/

/-- What a job of `run` does. Requests that would have to wait are refused in a job and change
nothing. -/
inductive Worked (backend : Backend σ) (reach : Frame) (registry : Registry σ) :
    Registry σ → Prop where
  | refl : Worked backend reach registry registry
  | visit {middle : Registry σ} (h : Worked backend reach registry middle) (handle : Handle)
    (visit : Program.Visit) (otherwise : visit.Answer) :
    Worked backend reach registry
      (reach.withProgram handle otherwise (visit.job backend) middle).2
  | unuse {middle : Registry σ} (h : Worked backend reach registry middle) :
    Worked backend reach registry (Frame.unbind backend middle).2
  | release {middle : Registry σ} (h : Worked backend reach registry middle) (handle : Handle) :
    Worked backend reach registry (release handle middle).2
  | clearFailed {middle : Registry σ} (h : Worked backend reach registry middle) (name : Text) :
    Worked backend reach registry { middle with table := (middle.table.clearFailed name).2 }
  | bind {middle : Registry σ} (h : Worked backend reach registry middle) (handle : Handle) :
    Worked backend reach registry (bind handle middle)
  | unbind {middle : Registry σ} (h : Worked backend reach registry middle) :
    Worked backend reach registry (unbind middle)
  | sweep {middle : Registry σ} (h : Worked backend reach registry middle) :
    Worked backend reach registry (sweep middle)

/-- What callers do, one after the other. There may be other texts behind the names every time. -/
inductive Operated (backend : Backend σ) (options : RegistryOptions) (registry : Registry σ) :
    Registry σ → Prop where
  | refl : Operated backend options registry registry
  | acquire {middle : Registry σ} (h : Operated backend options registry middle)
    (loader : Loader Id) (caller : Caller) (name : Text) :
    Operated backend options registry (acquire ⟨backend, loader, options⟩ caller name middle).2
  | release {middle : Registry σ} (h : Operated backend options registry middle) (handle : Handle) :
    Operated backend options registry (release handle middle).2
  | reload {middle : Registry σ} (h : Operated backend options registry middle)
    (loader : Loader Id) (caller : Caller) (name : Text) :
    Operated backend options registry (reload ⟨backend, loader, options⟩ caller name middle).2
  | reloadChanged {middle : Registry σ} (h : Operated backend options registry middle)
    (loader : Loader Id) (caller : Caller) :
    Operated backend options registry (reloadChanged ⟨backend, loader, options⟩ caller middle).2
  | clearFailed {middle : Registry σ} (h : Operated backend options registry middle) (name : Text) :
    Operated backend options registry
      { middle with table := (middle.table.clearFailed name).2 }
  | uniform {middle : Registry σ} (h : Operated backend options registry middle)
    (loader : Loader Id) (caller : Caller) (handle : Handle) (name : Text) :
    Operated backend options registry
      (uniform ⟨backend, loader, options⟩ caller handle name middle).2
  | attributeLocation {middle : Registry σ} (h : Operated backend options registry middle)
    (loader : Loader Id) (caller : Caller) (handle : Handle) (name : Text) :
    Operated backend options registry
      (attributeLocation ⟨backend, loader, options⟩ caller handle name middle).2
  | uniforms {middle : Registry σ} (h : Operated backend options registry middle)
    (loader : Loader Id) (caller : Caller) (handle : Handle) :
    Operated backend options registry (uniforms ⟨backend, loader, options⟩ caller handle middle).2
  | setUniform {middle : Registry σ} (h : Operated backend options registry middle)
    (loader : Loader Id) (caller : Caller) (handle : Handle) (name : Text) (value : UniformValue) :
    Operated backend options registry
      (setUniform ⟨backend, loader, options⟩ caller handle name value middle).2
  | bind {middle : Registry σ} (h : Operated backend options registry middle) (handle : Handle) :
    Operated backend options registry (bind handle middle)
  | unbind {middle : Registry σ} (h : Operated backend options registry middle) :
    Operated backend options registry (unbind middle)
  | run {middle : Registry σ} (h : Operated backend options registry middle) {α : Type}
    (loader : Loader Id) (caller : Caller)
    (job : Frame → Registry σ → Option α × Registry σ)
    (hjob : ∀ reach registry, Worked backend reach registry (job reach registry).2) :
    Operated backend options registry (run ⟨backend, loader, options⟩ caller job middle).2
  | rest {middle : Registry σ} (h : Operated backend options registry middle)
    (loader : Loader Id) :
    Operated backend options registry (rest ⟨backend, loader, options⟩ middle)

theorem Worked.enacts {reach : Frame} (h : Worked backend.recording reach registry registry') :
    Enacts backend validate (some (reach.programs.map Prod.snd))
      (some (reach.programs.map Prod.snd)) registry registry' := by
  induction h with
  | refl => exact enacts_refl registry
  | visit _ handle visit otherwise ih =>
    exact ih.trans (enacts_withProgram backend validate reach handle visit otherwise _)
  | unuse _ ih => exact ih.trans enacts_unuse
  | release _ handle ih => exact ih.trans (enacts_give handle _)
  | clearFailed _ name ih => exact ih.trans (enacts_clearFailed name)
  | bind _ handle ih => exact ih.trans (enacts_bind handle _)
  | unbind _ ih => exact ih.trans (enacts_unbind _)
  | sweep _ ih => exact ih.trans enacts_sweep

/-- **Steps on the scene lead to every registry in use.** -/
theorem Operated.enacts {options : RegistryOptions}
    (h : Operated backend.recording options registry registry') :
    Enacts backend options.validate none none registry registry' := by
  induction h with
  | refl => exact enacts_refl registry
  | acquire _ loader caller name ih =>
    exact ih.trans (enacts_acquire ⟨backend, loader, options⟩ caller name _)
  | release _ handle ih => exact ih.trans (enacts_give handle _)
  | reload _ loader caller name ih =>
    exact ih.trans (enacts_reload ⟨backend, loader, options⟩ caller name _)
  | reloadChanged _ loader caller ih =>
    exact ih.trans (enacts_reloadChangedOf ⟨backend, loader, options⟩ caller _ _)
  | clearFailed _ name ih => exact ih.trans (enacts_clearFailed name)
  | uniform _ loader caller handle name ih =>
    exact ih.trans (enacts_location ⟨backend, loader, options⟩ caller handle .uniform name _)
  | attributeLocation _ loader caller handle name ih =>
    exact ih.trans (enacts_location ⟨backend, loader, options⟩ caller handle .attrib name _)
  | uniforms _ loader caller handle ih =>
    exact ih.trans (enacts_ask ⟨backend, loader, options⟩ caller handle .list _)
  | setUniform _ loader caller handle name value ih =>
    exact ih.trans (enacts_ask ⟨backend, loader, options⟩ caller handle (.set name value) _)
  | bind _ handle ih => exact ih.trans (enacts_bind handle _)
  | unbind _ ih => exact ih.trans (enacts_unbind _)
  | run _ loader caller job hjob ih =>
    exact ih.trans (enacts_run ⟨backend, loader, options⟩ caller job
      (fun reach registry => (hjob reach registry).enacts) _)
  | rest _ loader ih => exact ih.trans (enacts_rest ⟨backend, loader, options⟩ _)

/-! ### From beginning to end

A registry is opened with nothing done, used, and closed. The conversation is followed through all
of it. -/

/-- A registry in which nothing was done yet. -/
def opened (device : σ) : Registry (List Event × σ) :=
  { thread := { device := ([], device) } }

theorem staged_opened (device : σ) : Staged (opened device) none (Scene.new device) where
  table := rfl
  thread := rfl
  queue := rfl
  running := rfl
  held := rfl
  waiting _ h := nomatch h
  custody := Scene.custody_new device
  regular := Scene.regular_new device

/-- **To close a registry is to leave its scene to the graphics thread**, which comes to rest. -/
theorem Staged.close (h : Staged registry none scene) (hunused : scene.Unused)
    (around : Surroundings σ) (validate : Bool)
    (hfresh : Ledger.Fresh {} (registry.close around.recording).log) :
    ∃ last, Scene.Drains around.backend validate scene.closed last ∧ last.AtRest ∧
      last.thread = (registry.close around.recording).handling [] [] := by
  let last := Order.destroy (registry.table.retired ++ registry.table.programs)
  -- The last job is ordered and the table is gone, on the scene as in the registry.
  have hclosed : Staged { table := {}, thread := registry.thread.submit last } none
      scene.closed := by
    refine ⟨⟨rfl, h.thread, ?_, h.running, h.held, h.waiting⟩, h.custody.closed h.regular hunused,
      h.regular.closed hunused⟩
    change scene.queue ++ _ = (registry.thread.queue ++ _).map Order.task
    rw [h.queue, h.table, List.map_append]
    rfl
  obtain ⟨last, hdrains, hlast⟩ := hclosed.drains validate hfresh
  refine ⟨last, hdrains, ⟨hlast.queue.trans ?_, hlast.running⟩, hlast.thread⟩
  rw [Thread.queue_drain]
  rfl

/-- **Programs are named while they exist and deleted once, whatever callers do with a registry**,
and when it is closed then, nothing is left of them unless the backend crashes over a deletion. -/
theorem Operated.lives {device : σ} {options : RegistryOptions}
    (h : Operated backend.recording options (opened device) registry) (loader : Loader Id)
    (hfresh : Ledger.Fresh {} registry.thread.log) :
    Lives registry.thread.log ∧ Lives (registry.close ⟨backend.recording, loader, options⟩).log ∧
      ((∀ id, (backend.deleteProgram id).Finishes) →
        (registry.close ⟨backend.recording, loader, options⟩).programs = []) := by
  let around : Surroundings σ := ⟨backend, loader, options⟩
  have hclose : Ledger.Fresh {} (registry.close around.recording).log :=
    (Thread.hushed_drain backend (registry.thread.submit (.destroy _))).fresh hfresh
  obtain ⟨scene, hreached, hstaged, hunused⟩ := h.enacts.enact (staged_opened device) hfresh
  have hlegal := hstaged.custody.alive.legal
  rw [hstaged.log] at hlegal
  obtain ⟨last, hdrains, hrest, hlast⟩ :=
    hstaged.close (hunused ⟨rfl, rfl⟩) around options.validate hclose
  have hsame : last.thread.log = (registry.close around.recording).log := by
    rw [hlast]
    rfl
  have hlast' : Ledger.Fresh {} last.thread.log := hsame ▸ hclose
  obtain ⟨hcustody, -⟩ := (hstaged.custody.closed hstaged.regular (hunused ⟨rfl, rfl⟩)).drains
    (hstaged.regular.closed (hunused ⟨rfl, rfl⟩)) hdrains hlast'
  refine ⟨lives_of_legal hlegal hfresh, ?_, fun hfinishes => ?_⟩
  · rw [show registry.close ⟨backend.recording, loader, options⟩ =
      registry.close around.recording from rfl, ← hsame]
    exact lives_of_legal hcustody.alive.legal hlast'
  · have hprograms := Scene.programs_closed hstaged.custody hstaged.regular (hunused ⟨rfl, rfl⟩)
      (Scene.lost_of_reached hreached (hstaged.log ▸ hfresh) hfinishes) hdrains hrest hlast'
      hfinishes
    rw [hlast] at hprograms
    exact hprograms

end ShaderBundle.Registry
