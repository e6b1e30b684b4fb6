import ShaderBundle.Proofs.Graphics.Settled
import ShaderBundle.Proofs.Registry.Service

/-!
# Programs in service

A program is owned by the table, by an outcome that is not recorded yet, or by an order to destroy
it, and by one of them only. As long as it is owned, its object is there, with the stages that it
was built with.

## Beside the scene

The same is shown of scenes, with a record of the conversation and with numbers of the backend in
place of objects. Here the backend is not recorded and nothing is assumed of it. What is wanted is
what a live handle is answered with, which is in the object: the stages of the program, the ones of
the file that it was built from. For this it is enough that objects do not get mixed up, and that
depends on references being numbered by the thread itself and never used twice.

## What is kept

Besides owners, the record of what programs were built from is kept along: each program that was
made is in it once. An owned program has an object whose stages are those of its entry in the
record. Visits change what objects remember, and not their stages; orders destroy objects of
programs that only they own; builds add an object under a new reference. A program without an owner
may have an object or not, and nothing is said about it.

## Main definitions

* `Service.Custody`: that is so.

## Main results

* `Service.Reached.custody`: it is so whatever happens.
* `Service.Custody.stages?`: the stages of a live handle are those that its program was built with.
-/

namespace ShaderBundle

/-- A build that ends well makes a program with the stages of the file. -/
theorem Build.stages_of_run {σ : Type} {backend : Backend σ} {bundle : Bundle} {validate : Bool}
    {s t : σ} {program : Program}
    (h : (build backend bundle validate).run s = (some (.ok program), t)) :
    program.stages = bundle.stages := by
  obtain ⟨events, -, -, hmeets⟩ := (build_records bundle validate).run [] s
  rw [h] at hmeets
  exact Course.stages_eq hmeets rfl

namespace Thread

variable {σ : Type} {backend : Backend σ} {thread : Thread σ} {ref other : ProgramRef}

/-- A build adds an object under the next reference, or it fails and adds none. -/
theorem build_cases (backend : Backend σ) (thread : Thread σ) (bundle : Bundle) (validate : Bool) :
    (∃ program device, program.stages = bundle.stages ∧
      thread.build backend bundle validate = (.ok ⟨thread.made⟩, { thread with
        device
        programs := thread.programs ++ [(⟨thread.made⟩, program)]
        made := thread.made + 1 })) ∨
      ∃ error device,
        thread.build backend bundle validate = (.error error, { thread with device }) := by
  rw [build, perform]
  rcases hrun : (Build.build backend bundle validate).run thread.device with
    ⟨_ | _ | program, device⟩
  · exact .inr ⟨_, device, rfl⟩
  · exact .inr ⟨_, device, rfl⟩
  · exact .inl ⟨program, device, Build.stages_of_run hrun, rfl⟩

/-- A visit changes what the object remembers at most. -/
theorem withProgram_cases (backend : Backend σ) (thread : Thread σ) (ref : ProgramRef)
    (program : Program) (visit : Program.Visit) :
    (∃ device, (thread.withProgram ref program (visit.job backend)).2 = { thread with device }) ∨
      ∃ device stored, stored.stages = program.stages ∧
        (thread.withProgram ref program (visit.job backend)).2 =
          ({ thread with device } : Thread σ).store ref stored := by
  rw [withProgram, perform]
  -- What a visit leaves of the object was shown over a recorded backend. Its stages are the same.
  obtain ⟨events, -, -, hmeets⟩ :=
    (@Program.visit_records σ backend visit program).run [] thread.device
  rcases hrun : (visit.job backend program).run thread.device with ⟨_ | ⟨answer, stored⟩, device⟩
  · exact .inl ⟨device, rfl⟩
  · rw [hrun] at hmeets
    exact .inr ⟨device, stored, hmeets.2.1, rfl⟩

theorem program?_store_of_ne (thread : Thread σ) (stored : Program) (h : other ≠ ref) :
    (thread.store ref stored).program? other = thread.program? other := by
  rw [program?, program?, store]
  induction thread.programs with
  | nil => rfl
  | cons kept rest ih =>
    have hne : (other == ref) = false := by simpa using h
    obtain ⟨key, object⟩ := kept
    by_cases hkey : key = ref
    · rw [List.map_cons, if_pos hkey, List.lookup_cons, List.lookup_cons, hkey, hne, ih]
    · rw [List.map_cons, if_neg hkey, List.lookup_cons, List.lookup_cons, ih]

theorem program?_store_self (stored : Program) (h : (thread.program? ref).isSome) :
    (thread.store ref stored).program? ref = some stored := by
  rw [program?] at h
  rw [program?, store]
  -- The induction is on the objects, of which the first under the reference counts.
  generalize thread.programs = programs at h
  induction programs with
  | nil => simp at h
  | cons kept rest ih =>
    obtain ⟨key, object⟩ := kept
    by_cases hkey : key = ref
    · simp [hkey]
    · have hne : (ref == key) = false := by simpa using Ne.symm hkey
      rw [List.lookup_cons, hne] at h
      rw [List.map_cons, if_neg hkey, List.lookup_cons, hne]
      exact ih h

/-- Orders make no programs. -/
theorem made_obey (order : Order) : (thread.obey backend order).made = thread.made := by
  refine obey_induction (P := fun later => later.made = thread.made) (fun ref _ middle h => ?_)
    (fun _ _ h => h) rfl
  rw [← h, destroy]
  split <;> rfl

theorem made_drain : (thread.drain backend).made = thread.made :=
  drain_induction (P := fun later => later.made = thread.made)
    (fun order _ _ h => (made_obey order).trans h) rfl

end Thread

namespace Service

variable {σ : Type} {backend : Backend σ} {options : RegistryOptions} {loaders : Loader Id → Prop}
  {service later : Service σ} {name : Text} {handle : Handle} {ref : ProgramRef}

/-- Every program is owned once, and its object is there as long as it is. -/
structure Custody (service : Service σ) : Prop where
  /-- Nobody else owns it. -/
  once : ∀ ref, service.refs.count ref ≤ 1
  /-- The object of a program has the stages that the program was built with. -/
  kept : ∀ ref ∈ service.refs, ∃ prepared program, (ref, prepared) ∈ service.built ∧
    service.thread.program? ref = some program ∧ program.stages = prepared.bundle.stages
  /-- Programs are numbered. -/
  made : ∀ pair ∈ service.built, pair.1.serial < service.thread.made
  /-- So are objects. -/
  objects : ∀ kept ∈ service.thread.programs, kept.1.serial < service.thread.made
  /-- No reference is used twice. -/
  distinct : (service.built.map Prod.fst).Nodup

/-- What a program was built from is on record once. -/
theorem Custody.prepared_eq (h : service.Custody) {prepared prepared' : Registry.Prepared}
    (hbuilt : (ref, prepared) ∈ service.built) (hbuilt' : (ref, prepared') ∈ service.built) :
    prepared' = prepared :=
  congrArg Prod.snd (List.inj_on_of_nodup_map h.distinct hbuilt' hbuilt rfl)

theorem Custody.lt_made (h : service.Custody) (href : ref ∈ service.refs) :
    ref.serial < service.thread.made := by
  obtain ⟨prepared, -, hbuilt, -⟩ := h.kept ref href
  exact h.made _ hbuilt

/-- Programs change hands, and nothing is done to the objects of those that are owned. -/
theorem Custody.of_refs (h : service.Custody)
    (hrefs : ∀ ref, later.refs.count ref ≤ service.refs.count ref)
    (hprograms : ∀ ref ∈ later.refs, service.thread.program? ref = later.thread.program? ref)
    (hsub : ∀ kept ∈ later.thread.programs, kept ∈ service.thread.programs)
    (hmade : later.thread.made = service.thread.made) (hbuilt : later.built = service.built) :
    later.Custody where
  once ref := (hrefs ref).trans (h.once ref)
  kept ref href := by
    have hpos := List.count_pos_iff.mpr href
    have hle := hrefs ref
    obtain ⟨prepared, program, hmem, hprogram, hstages⟩ :=
      h.kept ref (List.count_pos_iff.mp (by omega))
    exact ⟨prepared, program, hbuilt ▸ hmem, (hprograms ref href).symm.trans hprogram, hstages⟩
  made := by
    rw [hbuilt, hmade]
    exact h.made
  objects kept hkept := hmade ▸ h.objects kept (hsub kept hkept)
  distinct := hbuilt ▸ h.distinct

/-- Programs change hands, and nothing is done to objects. -/
theorem Custody.of_thread (h : service.Custody)
    (hrefs : ∀ ref, later.refs.count ref ≤ service.refs.count ref)
    (hprograms : later.thread.programs = service.thread.programs)
    (hmade : later.thread.made = service.thread.made) (hbuilt : later.built = service.built) :
    later.Custody :=
  h.of_refs hrefs (fun _ _ => by rw [Thread.program?, Thread.program?, hprograms])
    (fun _ hkept => hprograms ▸ hkept) hmade hbuilt

theorem count_refs (service : Service σ) (ref : ProgramRef) : service.refs.count ref =
    service.traffic.table.held.count ref +
      (service.errands.flatMap (·.progress.programs)).count ref +
      (service.thread.queue.flatMap (·.task.destroyed)).count ref := by
  rw [refs, List.count_append, List.count_append]

theorem programs_progress (result : Except Failure Registry.Prepared) :
    (Progress.of result).programs = [] := by
  cases result <;> rfl

theorem Custody.begun (h : service.Custody) (hregular : service.Regular) {step : Section}
    (hplain : step.IsPlain) {errand : Errand} (hprograms : errand.progress.programs = []) :
    (service.begun step errand).Custody := by
  have hholds := Traffic.holds_after hregular.owned hregular.keyed (hplain.allows _) hplain.ne_sweep
  refine h.of_thread (fun ref => ?_) rfl rfl rfl
  have hcount := hholds.count ref
  rw [hplain.brought, List.count_nil] at hcount
  simp [count_refs, Service.begun, hcount, hprograms]

/-- There is a new program, and somebody owns it. -/
theorem Custody.add (h : service.Custody) {program : Program} {prepared : Registry.Prepared}
    (hcount : ∀ ref, later.refs.count ref =
      service.refs.count ref + [(⟨service.thread.made⟩ : ProgramRef)].count ref)
    (hprograms : later.thread.programs =
      service.thread.programs ++ [(⟨service.thread.made⟩, program)])
    (hmade : later.thread.made = service.thread.made + 1)
    (hbuilt : later.built = service.built ++ [(⟨service.thread.made⟩, prepared)])
    (hstages : program.stages = prepared.bundle.stages) : later.Custody := by
  let new : ProgramRef := ⟨service.thread.made⟩
  -- The new reference is owned by nobody, was not built for and has no object, since all of these
  -- have smaller numbers.
  have hunowned : new ∉ service.refs := fun hmem => Nat.lt_irrefl _ (h.lt_made hmem)
  have hunbuilt : new ∉ service.built.map Prod.fst := fun hmem => by
    obtain ⟨pair, hpair, heq⟩ := List.mem_map.mp hmem
    exact Nat.lt_irrefl _ (heq ▸ h.made pair hpair)
  have hnone : service.thread.programs.lookup new = none :=
    List.lookup_eq_none_iff.mpr fun kept hkept => by
      have hne : new ≠ kept.1 := fun heq => Nat.lt_irrefl _ (heq ▸ h.objects kept hkept)
      simpa using hne
  have hlookup : ∀ ref, later.thread.program? ref =
      if ref = new then some program else service.thread.program? ref := fun ref => by
    rw [Thread.program?, hprograms]
    exact Slots.lookup_concat hnone
  refine ⟨fun ref => ?_, fun ref href => ?_, fun pair hpair => ?_, fun kept hkept => ?_, ?_⟩
  · rw [hcount]
    by_cases heq : ref = new
    · rw [heq, List.count_eq_zero.mpr hunowned, List.count_singleton_self]
    · rw [List.count_eq_zero.mpr (mt List.mem_singleton.mp heq)]
      exact h.once ref
  · rw [hlookup, hbuilt]
    by_cases heq : ref = new
    · rw [if_pos heq, heq]
      exact ⟨prepared, program, List.mem_append_right _ (List.mem_singleton_self _), rfl, hstages⟩
    · have hpos := List.count_pos_iff.mpr href
      rw [hcount, List.count_eq_zero.mpr (mt List.mem_singleton.mp heq)] at hpos
      obtain ⟨other, object, hother, hobject⟩ := h.kept ref (List.count_pos_iff.mp hpos)
      rw [if_neg heq]
      exact ⟨other, object, List.mem_append_left _ hother, hobject⟩
  · rw [hmade]
    rw [hbuilt] at hpair
    rcases List.mem_append.mp hpair with hold | hlast
    · exact Nat.lt_succ_of_lt (h.made pair hold)
    · rw [List.mem_singleton.mp hlast]
      exact Nat.lt_succ_self _
  · rw [hmade]
    rw [hprograms] at hkept
    rcases List.mem_append.mp hkept with hold | hlast
    · exact Nat.lt_succ_of_lt (h.objects kept hold)
    · rw [List.mem_singleton.mp hlast]
      exact Nat.lt_succ_self _
  · rw [hbuilt, List.map_append]
    simpa using List.Nodup.concat hunbuilt h.distinct

theorem Custody.builtFor (h : service.Custody) (backend : Backend σ) (validate : Bool)
    {before after : List Errand} {errand : Errand} {prepared : Registry.Prepared}
    (herrands : service.errands = before ++ errand :: after)
    (hprogress : errand.progress = .waiting prepared) :
    (service.builtFor backend validate before after errand prepared).Custody := by
  rcases Thread.build_cases backend service.thread prepared.bundle validate with
    ⟨program, device, hstages, hbuild⟩ | ⟨error, device, hbuild⟩
  -- The outcome owns the new program.
  · refine h.add (fun ref => ?_) ?_ ?_ ?_ hstages
    · simp only [count_refs, Service.builtFor, hbuild, herrands, hprogress, Scene.outcomeOf,
        Progress.programs, Outcome.programs, Except.toOption, List.flatMap_append,
        List.flatMap_cons, List.count_append, Option.toList_some, List.map_cons, List.map_nil,
        List.count_nil]
      omega
    · rw [Service.builtFor, hbuild]
    · rw [Service.builtFor, hbuild]
    · simp [Service.builtFor, hbuild, Except.toOption]
  -- Without one the device has changed, and what failed owns nothing.
  · refine h.of_thread (fun ref => ?_) ?_ ?_ ?_
    · simp [count_refs, Service.builtFor, hbuild, herrands, Scene.outcomeOf, Progress.programs,
        Outcome.programs_error]
    · rw [Service.builtFor, hbuild]
    · rw [Service.builtFor, hbuild]
    · simp [Service.builtFor, hbuild, Except.toOption]

theorem Custody.concluded (h : service.Custody) (hregular : service.Regular)
    {before after : List Errand} {errand : Errand} {outcome : Outcome}
    (herrands : service.errands = before ++ errand :: after)
    (hprogress : errand.progress = .finished outcome) :
    (service.concluded before after errand.request outcome).Custody := by
  have hmem := hregular.mem_inFlight (herrands ▸ List.mem_append_right _ List.mem_cons_self)
  have hholds := Traffic.holds_after hregular.owned hregular.keyed
    (Traffic.allows_conclusion hmem outcome) (errand.request.conclusion_ne_sweep outcome)
  refine h.of_thread (fun ref => ?_) rfl rfl rfl
  have hcount := hholds.count ref
  rw [Request.brought_conclusion] at hcount
  simp only [count_refs, Service.concluded, herrands, hcount, List.flatMap_append,
    List.flatMap_cons, List.count_append, hprogress, Progress.programs]
  omega

theorem Custody.swept (h : service.Custody) (isHeld : ProgramRef → Bool) :
    (service.swept isHeld).Custody := by
  refine h.of_thread (fun ref => ?_) rfl rfl rfl
  have hheld := Slots.count_held_sweep service.traffic.table isHeld ref
  have hidle : ((service.traffic.table.sweep isHeld).1.map fun ref => Order.destroy [ref]).flatMap
      (·.task.destroyed) = (service.traffic.table.sweep isHeld).1 := by
    rw [List.flatMap_map]
    exact List.flatMap_singleton' _
  simp only [count_refs, Service.swept, Thread.handling, List.flatMap_append, List.count_append,
    hidle, Traffic.after]
  omega

theorem Custody.obey (h : service.Custody) (backend : Backend σ) {order : Order} {rest : List Order}
    (hqueue : service.thread.queue = order :: rest) :
    ({ service with
      thread := (service.thread.handling rest service.thread.running).obey backend order } :
        Service σ).Custody := by
  let thread := service.thread.handling rest service.thread.running
  have hrest : (thread.obey backend order).queue = rest := by
    rw [Thread.obey_handling]
    rfl
  -- The order lets go of what it has owned, and everybody else keeps what they had.
  have hcount : ∀ ref, service.refs.count ref = order.task.destroyed.count ref +
      ({ service with thread := thread.obey backend order } : Service σ).refs.count ref :=
    fun ref => by
      simp only [count_refs, hrest, hqueue, List.flatMap_cons, List.count_append]
      omega
  refine h.of_refs (fun ref => by rw [hcount]; exact Nat.le_add_left _ _) (fun ref href => ?_)
    (fun kept hkept => (@Thread.sublist_obey σ backend thread order).subset hkept)
    (Thread.made_obey order) rfl
  -- Nobody owns a program that the order has owned, so those that are owned keep their objects.
  have hnotMem : ref ∉ order.task.destroyed := fun hmem => by
    have hpos : 0 < ({ service with thread := thread.obey backend order } :
        Service σ).refs.count ref := List.count_pos_iff.mpr href
    have hpos' := List.count_pos_iff.mpr hmem
    have hone := h.once ref
    rw [hcount] at hone
    omega
  exact (@Thread.program?_obey σ backend ref thread order hnotMem).symm

theorem Custody.visit (h : service.Custody) (backend : Backend σ) {program : Program}
    (hprogram : service.thread.program? ref = some program) (visit : Program.Visit) :
    ({ service with
      thread := (service.thread.withProgram ref program (visit.job backend)).2 } :
        Service σ).Custody := by
  rcases Thread.withProgram_cases backend service.thread ref program visit with
    ⟨device, hthread⟩ | ⟨device, stored, hstages, hthread⟩
  · rw [hthread]
    exact h.of_thread (fun _ => Nat.le_refl _) rfl rfl rfl
  · rw [hthread]
    let thread : Thread σ := { service.thread with device }
    refine ⟨h.once, fun other hother => ?_, h.made, fun kept hkept => ?_, h.distinct⟩
    · obtain ⟨prepared, object, hbuilt, hobject, hobject'⟩ := h.kept other hother
      -- The object that was visited has other memories, but the same stages.
      by_cases hsame : other = ref
      · subst hsame
        obtain rfl := Option.some.inj (hprogram.symm.trans hobject)
        have hsome : (thread.program? other).isSome := Option.isSome_of_eq_some hprogram
        exact ⟨prepared, stored, hbuilt, Thread.program?_store_self stored hsome,
          hstages.trans hobject'⟩
      · exact ⟨prepared, object, hbuilt, (thread.program?_store_of_ne stored hsame).trans hobject,
          hobject'⟩
    · obtain ⟨old, hold, rfl⟩ := List.mem_map.mp hkept
      have hlt := h.objects old hold
      split
      · next heq => exact heq ▸ hlt
      · exact hlt

/-- **Whatever happens, programs stay in custody.** -/
theorem Custody.step (h : service.Custody) (hregular : service.Regular)
    (hstep : Step backend options loaders service later) : later.Custody := by
  cases hstep with
  | enter hplain _ =>
    have hholds := Traffic.holds_after hregular.owned hregular.keyed (hplain.allows _)
      hplain.ne_sweep
    refine h.of_thread (fun ref => ?_) rfl rfl rfl
    have hcount := hholds.count ref
    rw [hplain.brought, List.count_nil] at hcount
    simp only [count_refs, hcount]
    exact Nat.le_refl _
  -- Requests begin with a section and own nothing before they are built for.
  | @acquire _ _ name hclaim =>
    exact h.begun hregular (show (Section.claim name).IsPlain from trivial) (programs_progress _)
  | @reload _ _ name _ _ hmark =>
    exact h.begun hregular (show (Section.mark name).IsPlain from trivial) (programs_progress _)
  | build herrands hprogress => exact h.builtFor backend options.validate herrands hprogress
  | conclude herrands hprogress => exact h.concluded hregular herrands hprogress
  | sweep isHeld => exact h.swept isHeld
  | obey hqueue => exact h.obey backend hqueue
  | submit horder =>
    refine h.of_thread (fun ref => ?_) rfl rfl rfl
    simp [count_refs, Thread.submit, horder]
  | visit hprogram visit => exact h.visit backend hprogram visit
  | unuse => exact h.of_thread (fun _ => Nat.le_refl _) rfl rfl rfl
  | hold programs => exact h.of_thread (fun _ => Nat.le_refl _) rfl rfl rfl

theorem custody_new (device : σ) : (new device).Custody where
  once _ := Nat.zero_le _
  kept _ h := nomatch h
  made _ h := nomatch h
  objects _ h := nomatch h
  distinct := List.nodup_nil

theorem Reached.custody {device : σ} (h : Reached backend options loaders (new device) service) :
    service.Custody := by
  induction h with
  | refl => exact custody_new device
  | step hmiddle hstep ih => exact ih.step hmiddle.regular hstep

/-- The stages of a live handle are those that its program was built with. -/
theorem Custody.stages? (h : service.Custody) {entry : Entry} {prepared : Registry.Prepared}
    (hentry : service.traffic.table.entry? handle = some entry)
    (hbuilt : (entry.program, prepared) ∈ service.built) :
    service.registry.stages? handle = some prepared.bundle.stages := by
  obtain ⟨name, -, hslot, -⟩ := Slots.entry?_eq_some_iff.mp hentry
  have hheld : entry.program ∈ service.traffic.table.held :=
    List.mem_append_left _ (Slots.mem_programs_iff.mpr
      ⟨name, entry, Slots.mem_of_slot? hslot, rfl⟩)
  obtain ⟨other, program, hother, hprogram, hstages⟩ :=
    h.kept entry.program (List.mem_append_left _ (List.mem_append_left _ hheld))
  obtain rfl := h.prepared_eq hbuilt hother
  have hfound : service.registry.program? handle = some (entry.program, program) := by
    rw [Registry.program?, registry, hentry, Option.bind_some, hprogram, Option.map_some]
  rw [Registry.stages?, hfound, Option.map_some, hstages]

end Service

end ShaderBundle
