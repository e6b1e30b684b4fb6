import ShaderBundle.Proofs.Registry.Discards
import ShaderBundle.Proofs.Registry.Marks
import ShaderBundle.Proofs.Registry.Operations

/-!
# Reloads that fail

A request for a new program may fail because the text is missing or unreadable, because it is
malformed, or because it does not build. The old program stays, with all that callers know of it.

## What callers see

Callers see states of names, counts, versions and stages, which are read off the table, and
locations, which are remembered or asked for. `Registry.Alike` has one field for each of these. The
answer to a question about a location depends on the state of the backend, which a failed build has
moved on, so it is not enough to compare memories: that the backend tells the same about the old
program rests on the calls of a failed build not being about it, and on names staying where they are
until a program is linked again (`Backend.Separates`). Questions of jobs and from outside are both
covered, and the outcome of the next request for a new program is part of it too: the mark of the
failed one is gone.

## What there is at the backend

A request carries the waiting orders out before it builds, so what there is at the backend is
compared with what there is behind these orders. Programs that were retired already may be destroyed
on the occasion, by the sweep that ends the request. Stages are the same before and behind, with one
exception: over a log with a line number too large for its word a build crashes, and the stages that
it has compiled are left. The exception names the bundle and what was said, and an instance of it is
given at the end.

## Main definitions

* `Registry.Alike`: callers see no difference between two registries.
* `Registry.ledger`: what there is at the backend when the orders that wait are carried out.

## Main results

* `Registry.reload_error`: what is left of a request for a new program that fails.
* `Registry.reload_failed`: callers see nothing of it, and neither does the backend but for retired
  programs, unless a log carries a line number too large for its word.

## Implementation notes

A job of `run` is refused at once, before anything is read, so nothing has to be assumed of the
scene for it beyond that it shows the registry.
-/

namespace ShaderBundle

namespace Registry

variable {σ : Type} {backend : Backend σ} {validate : Bool}
  {registry later : Registry (List Event × σ)} {scene : Scene σ} {ref : ProgramRef}

/-! ### Requests that fail

Behind a failure there are three registries: the one from before, that with a sweep, and that with a
failed build and a sweep. The outcome says only that there was a failure; which of the three it is
depends on where. -/

/-- **What is left of a request for a new program that fails.** It may not have come to a build, or
the build behind the waiting orders has failed. -/
theorem reload_error (around : Surroundings σ) (caller : Caller) (name : Text)
    (registry : Registry σ) (hkeyed : registry.table.Keyed) {error : RegistryError}
    (h : (reload around caller name registry).1 = .error error) :
    (reload around caller name registry).2 = registry ∨
      (reload around caller name registry).2 = registry.sweep ∨
      ∃ prepared source, prepare around name (some source) = .ok prepared ∧
        let built := (registry.thread.drain around.backend).build around.backend prepared.bundle
          around.options.validate
        (∀ ref, built.1 ≠ .ok ref) ∧
          (reload around caller name registry).2 = sweep { registry with thread := built.2 } := by
  cases caller with
  | job => exact .inl rfl
  | outside =>
    rw [reload, beginReload] at h ⊢
    -- Without a mark nothing was begun.
    rcases registry.table.mark_cases name with ⟨hnone, htable⟩ | ⟨entry, hslot, hidle, hmark⟩
    · rcases hmark : registry.table.mark name with ⟨⟨handle, source⟩ | _ | _, table⟩
      · exact absurd (congrArg Prod.fst hmark) (hnone handle source)
      · exact .inl rfl
      · exact .inl rfl
    -- With one, nothing is built if the text is refused, and the failure takes the mark away.
    · have hreplace := Slots.replace_mark hkeyed hslot hidle
      rw [hmark] at h ⊢
      simp only [] at h ⊢
      rcases hprepare : prepare around name (some entry.source) with failure | prepared
      · refine .inr (.inl ?_)
        simp only [finishReload, hreplace (.error failure)]
      · refine .inr (.inr ⟨prepared, entry.source, hprepare, ?_⟩)
        simp only [hprepare, buildNow_catchUp, finishReload] at h ⊢
        rcases hbuilt : ((registry.thread.drain around.backend).build around.backend
          prepared.bundle around.options.validate).1 with cause | ref
        · simp only [Scene.outcomeOf, hreplace (.error _)]
          exact ⟨by simp, trivial⟩
        -- A build that ends well would be no failure.
        · simp only [hbuilt, Scene.outcomeOf, hreplace (.ok _)] at h
          cases h

/-! ### Programs of the table

The orders that wait destroy programs that were swept out. A program of the table has the table as
its owner and so is not among them. -/

/-- A program of the table is not retired. -/
theorem Staged.notMem_retired (h : Staged registry none scene)
    (href : ref ∈ registry.table.programs) : ref ∉ registry.table.retired := by
  intro hretired
  have hle := h.custody.count_owned_le ref
  have hprograms := List.count_pos_iff.mpr href
  have hcount := List.count_pos_iff.mpr hretired
  rw [Scene.count_owned, h.table, Slots.held, List.count_append] at hle
  omega

/-- The orders that wait leave a program of the table alone. -/
theorem Staged.program?_drain (h : Staged registry none scene)
    (href : ref ∈ registry.table.programs) :
    (registry.thread.drain backend.recording).program? ref = registry.thread.program? ref := by
  refine Thread.program?_drain fun order horder => ?_
  have hheld : ref ∈ scene.traffic.table.held := h.table ▸ List.mem_append_left _ href
  refine h.custody.notMem_destroyed hheld (List.mem_append_right _ (List.mem_append_right _ ?_))
  rw [h.queue]
  exact List.mem_map_of_mem horder

/-- The objects are about programs of their own when the orders that wait are carried out. -/
theorem Staged.alive_drain (h : Staged registry none scene) (backend : Backend σ)
    (hfresh : Ledger.Fresh {} registry.thread.log) :
    (registry.thread.drain backend.recording).Alive := by
  obtain ⟨later, -, hlater⟩ :=
    h.drains true ((registry.thread.hushed_drain backend).fresh hfresh)
  have halive := hlater.custody.alive
  rw [hlater.thread] at halive
  exact ⟨halive.legal, halive.exist, halive.refs, halive.distinct, halive.made⟩

/-! ### What callers see

What is read off the table is the same because the table is. The rest is asked behind the waiting
orders, so objects and the backend are compared there. -/

/-- Callers see no difference between two registries. -/
structure Alike (around : Surroundings σ) (registry later : Registry σ) : Prop where
  /-- The states of names. -/
  status : ∀ name, later.table.status name = registry.table.status name
  /-- The failures of names. -/
  failure : ∀ name, later.table.failure? name = registry.table.failure? name
  /-- The references to names. -/
  refCount : ∀ name, later.table.refCount name = registry.table.refCount name
  /-- The ready names. -/
  loaded : later.table.loaded = registry.table.loaded
  /-- The names of handles. -/
  name : ∀ handle, later.table.name? handle = registry.table.name? handle
  /-- The versions of the texts. -/
  version : ∀ handle, later.table.sourceVersion? handle = registry.table.sourceVersion? handle
  /-- The stages of programs. -/
  stages : ∀ handle, later.stages? handle = registry.stages? handle
  /-- The programs, with the backend's numbers for them and all that they remember. -/
  program : ∀ handle, later.program? handle = registry.program? handle
  /-- The locations of uniforms. -/
  uniform : ∀ caller handle name,
    (uniform around caller handle name later).1 = (uniform around caller handle name registry).1
  /-- The locations of attributes. -/
  attributeLocation : ∀ caller handle name, (attributeLocation around caller handle name later).1 =
    (attributeLocation around caller handle name registry).1
  /-- What becomes of the next request for a new program. -/
  mark : ∀ name, (later.table.mark name).1 = (registry.table.mark name).1

theorem alike_refl (around : Surroundings σ) (registry : Registry σ) :
    Alike around registry registry :=
  ⟨fun _ => rfl, fun _ => rfl, fun _ => rfl, rfl, fun _ => rfl, fun _ => rfl, fun _ => rfl,
    fun _ => rfl, fun _ _ _ => rfl, fun _ _ _ => rfl, fun _ => rfl⟩

/-- What a question comes to whose job may have crashed. -/
def answerOf {α : Type} : Option α → Except RegistryError α
  | some answer => .ok answer
  | none => .error (.thread .unavailable)

/-- A question from outside comes to the answer behind the orders that wait. -/
theorem fst_ask_outside {α : Type} (around : Surroundings σ) (job : Program → Job σ (α × Program))
    {registry : Registry σ} {handle : Handle} {program other : Program}
    (hprogram : registry.program? handle = some (ref, program))
    (hdrained : (registry.thread.drain around.backend).program? ref = some other) :
    (ask around .outside handle job registry).1 =
      answerOf
        (((job other).run (registry.thread.drain around.backend).device).1.map Prod.fst) := by
  simp only [ask, hprogram, hdrained, Thread.withProgram, Thread.perform]
  rcases (job other).run (registry.thread.drain around.backend).device with
    ⟨_ | ⟨answer, _⟩, device⟩ <;> rfl

/-- The answer to a question about a program is the same if the program is, and its answer. -/
theorem ask_congr {α : Type} (around : Surroundings σ) (caller : Caller) (handle : Handle)
    (job : Program → Job σ (α × Program)) {registry later : Registry σ}
    (hprogram : later.program? handle = registry.program? handle)
    (hanswer : ∀ ref program, registry.program? handle = some (ref, program) →
      (registry.thread.drain around.backend).program? ref = some program ∧
        (later.thread.drain around.backend).program? ref = some program ∧
        ((job program).run (later.thread.drain around.backend).device).1.map Prod.fst =
          ((job program).run (registry.thread.drain around.backend).device).1.map Prod.fst) :
    (ask around caller handle job later).1 = (ask around caller handle job registry).1 := by
  cases caller with
  -- A job is told that it has to wait, or that there is no such handle.
  | job =>
    rw [ask, ask, hprogram]
    cases registry.program? handle <;> rfl
  | outside =>
    rcases hfound : registry.program? handle with _ | ⟨ref, program⟩
    · rw [ask, ask, hprogram, hfound]
    · obtain ⟨hobject, hobject', hsame⟩ := hanswer ref program hfound
      rw [fst_ask_outside around job (hprogram.trans hfound) hobject',
        fst_ask_outside around job hfound hobject, hsame]

/-- A location is remembered, or the backend is asked for it. -/
theorem fst_location (around : Surroundings σ) (caller : Caller) (handle : Handle)
    (kind : NameKind) (name : Text) (registry : Registry σ) :
    (location around caller handle kind name registry).1 =
      match (registry.program? handle).bind fun found => (kind.answers found.2).get? name with
      | some answer => answer
      | none => match (ask around caller handle
          (fun program => kind.lookup around.backend program name) registry).1 with
        | .ok answer => answer
        | .error _ => none := by
  rw [location_eq]
  rcases (registry.program? handle).bind fun found => (kind.answers found.2).get? name with
    _ | answer <;> rfl

/-- The object of a program that is found. -/
theorem program?_of_program? {registry : Registry σ} {handle : Handle} {program : Program}
    (h : registry.program? handle = some (ref, program)) :
    registry.thread.program? ref = some program := by
  obtain ⟨entry, -, hfound⟩ := Option.bind_eq_some_iff.mp h
  obtain ⟨object, hobject, hpair⟩ := Option.map_eq_some_iff.mp hfound
  obtain ⟨rfl, rfl⟩ := Prod.mk.inj hpair
  exact hobject

/-- Callers see no difference if the names, their programs and their objects stay and nothing is
done about these programs. -/
theorem Staged.alike (h : Staged registry none scene) {around : Surroundings σ}
    (hseparates : around.backend.Separates)
    (htable : later.table = { registry.table with retired := later.table.retired })
    (hobjects : ∀ ref ∈ registry.table.programs,
      later.thread.program? ref = registry.thread.program? ref ∧
        (later.thread.drain around.backend.recording).program? ref =
          registry.thread.program? ref)
    {events : List Event}
    (hpath : around.backend.Path (registry.thread.drain around.backend.recording).device.2 events
      (later.thread.drain around.backend.recording).device.2)
    (hignores : ∀ pair ∈ (later.thread.drain around.backend.recording).ids,
      Ignores pair.2 events) : Alike around.recording registry later := by
  have hentry : ∀ handle, later.table.entry? handle = registry.table.entry? handle := by
    intro handle
    rw [htable]
    rfl
  have hprogram : ∀ handle, later.program? handle = registry.program? handle := by
    intro handle
    rw [Registry.program?, Registry.program?, hentry]
    rcases hfound : registry.table.entry? handle with _ | entry
    · rfl
    · obtain ⟨name, -, hslot, -⟩ := Slots.entry?_eq_some_iff.mp hfound
      have hmem : entry.program ∈ registry.table.programs :=
        Slots.mem_programs_iff.mpr ⟨name, entry, Slots.mem_of_slot? hslot, rfl⟩
      rw [Option.bind_some, Option.bind_some, (hobjects _ hmem).1]
  -- An object that is asked about is the same behind the waiting orders, before and after.
  have hdrained : ∀ {handle ref program}, registry.program? handle = some (ref, program) →
      (registry.thread.drain around.backend.recording).program? ref = some program ∧
        (later.thread.drain around.backend.recording).program? ref = some program := by
    intro handle ref program hfound
    have hmem := mem_programs_of_program? hfound
    have hobject := program?_of_program? hfound
    exact ⟨(h.program?_drain hmem).trans hobject, (hobjects ref hmem).2.trans hobject⟩
  -- A name of either kind is remembered as before, or the backend finds it where it was.
  have hlocation : ∀ kind caller handle name,
      (location around.recording caller handle kind name later).1 =
        (location around.recording caller handle kind name registry).1 := by
    intro kind caller handle name
    rw [fst_location, fst_location, hprogram, ask_congr around.recording caller handle _
      (hprogram handle) fun ref program hfound => ⟨(hdrained hfound).1, (hdrained hfound).2, ?_⟩]
    refine (kind.fst_run_lookup _ _ _ _).trans (Eq.trans ?_ (kind.fst_run_lookup _ _ _ _).symm)
    cases (kind.answers program).get? name with
    | some answer => rfl
    | none =>
      obtain ⟨huniform, hattribute⟩ := hseparates.of_path hpath
        (hignores _ (Thread.mem_ids_of_program? (hdrained hfound).2)) name
      cases kind with
      | uniform => exact huniform
      | attrib => exact hattribute
  constructor
  case stages => exact fun handle => by rw [stages?, stages?, hprogram]
  case program => exact hprogram
  case uniform => exact hlocation .uniform
  case attributeLocation => exact hlocation .attrib
  case mark => exact fun name => Slots.fst_mark_congr (by rw [htable]; rfl)
  -- The others are read off the names and their states.
  all_goals
    rw [htable]
    intros
    rfl

/-! ### What there is at the backend

The ledger is read off the conversation, the orders that wait included. Programs may be missing from
it behind a request, and only ones that were retired. -/

/-- What there is at the backend when the orders that wait are carried out. -/
def ledger (backend : Backend σ) (registry : Registry (List Event × σ)) : Ledger :=
  Ledger.run {} (registry.thread.drain backend.recording).log

/-- The same programs are there, and the same one is current, but for programs that were retired. -/
def LosesRetired (backend : Backend σ) (registry later : Registry (List Event × σ)) : Prop :=
  ∃ gone : List ProgramId,
    (∀ id ∈ gone, ∃ ref ∈ registry.table.retired, (ref, id) ∈ registry.thread.ids) ∧
      (later.ledger backend).programs =
        (registry.ledger backend).programs.filter (fun id => id ∉ gone) ∧
      (later.ledger backend).current =
        (registry.ledger backend).current.filter fun id => id ∉ gone

theorem losesRetired_refl (backend : Backend σ) (registry : Registry (List Event × σ)) :
    LosesRetired backend registry registry := by
  refine ⟨[], fun _ hid => (nomatch hid), by simp, ?_⟩
  cases (registry.ledger backend).current <;> simp [Option.filter]

/-- What is swept out of a registry is destroyed behind the orders that wait. -/
theorem discards_sweep (backend : Backend σ)
    (halive : (registry.thread.drain backend.recording).Alive) : ∃ idle ⊆ registry.table.retired,
      (registry.thread.drain backend.recording).Discards backend idle
          (registry.sweep.thread.drain backend.recording) ∧
        (registry.sweep.ledger backend).stages = (registry.ledger backend).stages := by
  refine ⟨(registry.table.sweep registry.thread.holds).1, List.filter_subset_self _, ?_⟩
  have hdrain : registry.sweep.thread.drain backend.recording =
      ((registry.table.sweep registry.thread.holds).1.map fun ref => .destroy [ref]).foldl
        (Thread.obey backend.recording) (registry.thread.drain backend.recording) := by
    rw [sweep_eq]
    exact Thread.drain_concat backend.recording registry.thread _
  rw [ledger, hdrain]
  exact halive.discards backend _

/-- Nothing is seen of a build that fails, nor of the sweep behind it. -/
theorem Staged.swept (h : Staged registry none scene) {around : Surroundings σ}
    (hseparates : around.backend.Separates) {thread : Thread (List Event × σ)}
    (halive : (thread.drain around.backend.recording).Alive)
    (hobjects : ∀ ref ∈ registry.table.programs,
      thread.program? ref = registry.thread.program? ref)
    (hdiscards : (registry.thread.drain around.backend.recording).Discards around.backend []
      (thread.drain around.backend.recording)) :
    Alike around.recording registry (sweep { registry with thread }) ∧
      LosesRetired around.backend registry (sweep { registry with thread }) ∧
      ((sweep { registry with thread }).ledger around.backend).stages =
        (Ledger.run {} (thread.drain around.backend.recording).log).stages := by
  let built : Registry (List Event × σ) := { registry with thread }
  have halive' : (built.thread.drain around.backend.recording).Alive := halive
  -- The build discards nothing, and the sweep discards retired programs only.
  obtain ⟨idle, hidle, hswept, hstages⟩ := discards_sweep around.backend halive'
  have hall := hdiscards.trans hswept
  rw [List.nil_append] at hall
  obtain ⟨events, -, hpath, hignores⟩ := hall.said
  obtain ⟨gone, hgone, hprograms, hcurrent⟩ := hall.left
  refine ⟨h.alike hseparates ?_ (fun ref href => ⟨?_, ?_⟩) hpath hignores,
    ⟨gone, fun id hid => ?_, hprograms, hcurrent⟩, hstages⟩
  · rfl
  · rw [sweep_eq]
    exact hobjects ref href
  -- Programs of the table are not retired, so their objects are where they were.
  · rw [hall.program? fun hmem => h.notMem_retired href (hidle hmem)]
    exact h.program?_drain href
  · obtain ⟨ref, href, hpair⟩ := hgone id hid
    exact ⟨ref, hidle href, (((Thread.sublist_drain registry.thread).map _).subset hpair)⟩

/-- A request for a new program that fails, wherever the registry is shown. -/
theorem Staged.reload_alike (h : Staged registry none scene) (around : Surroundings σ)
    (hreturns : around.backend.Returns) (hseparates : around.backend.Separates) (caller : Caller)
    (name : Text) {error : RegistryError}
    (herror : (reload around.recording caller name registry).1 = .error error)
    (hfresh : Ledger.Fresh {} (reload around.recording caller name registry).2.thread.log) :
    Alike around.recording registry (reload around.recording caller name registry).2 ∧
      LosesRetired around.backend registry (reload around.recording caller name registry).2 ∧
      (((reload around.recording caller name registry).2.ledger around.backend).stages =
          (registry.ledger around.backend).stages ∨
        ∃ prepared source, prepare around.recording name (some source) = .ok prepared ∧
          Build.Overflows prepared.bundle.blocks
            ((reload around.recording caller name registry).2.thread.log.drop
              (registry.thread.drain around.backend.recording).log.length)) := by
  have hkeyed : registry.table.Keyed := h.table ▸ h.regular.keyed
  rcases reload_error around.recording caller name registry hkeyed herror with
    hsame | hswept | ⟨prepared, source, hprepare, hfailed, hbuilt⟩
  · rw [hsame]
    exact ⟨alike_refl _ _, losesRetired_refl _ _, .inl rfl⟩
  -- Only the sweep has come to the graphics thread.
  · rw [hswept] at hfresh ⊢
    rw [sweep_eq] at hfresh
    have halive := h.alive_drain around.backend hfresh
    obtain ⟨halike, hloses, hstages⟩ := h.swept hseparates halive (fun _ _ => rfl)
      (Thread.discards_of_notMem fun _ hmem => nomatch hmem)
    exact ⟨halike, hloses, .inl hstages⟩
  -- A build behind the waiting orders has failed. No orders wait behind it.
  · let drained := registry.thread.drain around.backend.recording
    let built := drained.build around.backend.recording prepared.bundle around.options.validate
    have hidle : built.2.drain around.backend.recording = built.2 :=
      Thread.drain_of_nil (by simp [built, drained])
    have hsweep : (sweep { registry with thread := built.2 }).thread.log = built.2.log := by
      rw [sweep_eq]
      rfl
    rw [hbuilt] at hfresh ⊢
    change Ledger.Fresh {} (sweep { registry with thread := built.2 }).thread.log at hfresh
    rw [hsweep] at hfresh
    have hlog : registry.thread.log <+: built.2.log :=
      (registry.thread.hushed_drain around.backend).log.trans (drained.log_build _ _)
    -- All is accounted for behind the orders, and then behind the build.
    have halive := h.alive_drain around.backend (Ledger.along_of_prefix hlog hfresh)
    obtain ⟨hbuild, -, -⟩ := halive.build prepared.bundle around.options.validate hfresh
    obtain ⟨hdiscards, hstages⟩ := halive.build_failed hreturns prepared.bundle
      around.options.validate hfailed hfresh
    have hbuild' : (built.2.drain around.backend.recording).Alive := by
      rw [hidle]
      exact hbuild
    have hdiscards' : drained.Discards around.backend []
        (built.2.drain around.backend.recording) := by
      rw [hidle]
      exact hdiscards
    -- The programs of the table have kept their objects through both.
    have hobjects : ∀ ref ∈ registry.table.programs,
        built.2.program? ref = registry.thread.program? ref := fun ref href =>
      (hdiscards.program? List.not_mem_nil).trans (h.program?_drain href)
    obtain ⟨halike, hloses, hstages'⟩ := h.swept hseparates hbuild' hobjects hdiscards'
    rw [hidle] at hstages'
    refine ⟨halike, hloses, hstages.imp hstages'.trans fun hoverflow => ?_⟩
    exact ⟨prepared, source, hprepare, hsweep ▸ hoverflow⟩

/-- **A request for a new program that fails changes nothing that callers can see**, nor what there
is at the backend but for programs that were retired already. Only if a log carries a line number
too large for its word, stages are left behind. -/
theorem reload_failed (around : Surroundings σ) (hreturns : around.backend.Returns)
    (hseparates : around.backend.Separates) {device : σ}
    (hreached : Scene.Reached around.backend around.options.validate (.new device) scene)
    {frame : Option (List ProgramRef)} (hshown : Shown registry frame scene) {caller : Caller}
    (hcaller : frame = none ∨ caller = .job) {name : Text} {error : RegistryError}
    (herror : (reload around.recording caller name registry).1 = .error error)
    (hfresh : Ledger.Fresh {} (reload around.recording caller name registry).2.thread.log) :
    Alike around.recording registry (reload around.recording caller name registry).2 ∧
      LosesRetired around.backend registry (reload around.recording caller name registry).2 ∧
      (((reload around.recording caller name registry).2.ledger around.backend).stages =
          (registry.ledger around.backend).stages ∨
        ∃ prepared source, prepare around.recording name (some source) = .ok prepared ∧
          Build.Overflows prepared.bundle.blocks
            ((reload around.recording caller name registry).2.thread.log.drop
              (registry.thread.drain around.backend.recording).log.length)) := by
  rcases hcaller with rfl | rfl
  -- What holds of the whole conversation holds of the part of it that the scene has seen.
  · have hfresh' : Ledger.Fresh {} scene.thread.log := by
      rw [hshown.log]
      exact Ledger.along_of_prefix (enacts_reload around caller name registry).log hfresh
    obtain ⟨hcustody, hregular, -⟩ :=
      (Scene.custody_new device).reached (Scene.regular_new device) hreached hfresh'
    have hstaged : Staged registry none scene := ⟨hshown, hcustody, hregular⟩
    exact hstaged.reload_alike around hreturns hseparates caller name herror hfresh
  · exact ⟨alike_refl _ _, losesRetired_refl _ _, .inl rfl⟩

/-! ### A text that is refused

A front end that refuses question marks, with a log that can be chosen: with an ordinary one the
build fails and is cleaned up, with one that carries the greatest line number it crashes. -/

/-- A registry that has been asked for one name is shown. -/
theorem exists_staged_acquire (around : Surroundings σ) (device : σ) (name : Text)
    (hfresh : Ledger.Fresh {}
      (acquire around.recording .outside name (opened device)).2.thread.log) :
    ∃ scene, Scene.Reached around.backend around.options.validate (.new device) scene ∧
      Staged (acquire around.recording .outside name (opened device)).2 none scene := by
  obtain ⟨scene, hreached, hstaged, -⟩ :=
    (enacts_acquire around .outside name (opened device)).enact (staged_opened device) hfresh
  exact ⟨scene, hreached, hstaged⟩

/-- A front end that refuses fragment stages with a question mark, with a log of its own. -/
def refusing (log : Text) : Headless.FrontEnd := fun stage source =>
  if stage = .fragment ∧ '?' ∈ source then .error log else .ok {}

/-- That front end, with a text behind the name `a`. -/
def refusingAround (log text : Text) : Surroundings Headless.State where
  backend := Headless.backend (refusing log)
  loader := Loader.ofTable [(['a'], text)]

/-- The short file with a question mark in its fragment stage. -/
def doubtfulFile : Text :=
  "#version 410\n#pragma vertex\n@entry void v(){}\n#pragma fragment\n@entry void f(){?}\n".toList

/-- A registry with the short file loaded. -/
def shortLoaded (log : Text) : Registry (List Event × Headless.State) :=
  (acquire (refusingAround log Bundle.shortFile).recording .outside ['a'] (opened {})).2

/-- The short file is replaced by one that does not compile. -/
theorem reload_failed_doubtfulFile :
    let log := "0:2(1): error".toList
    let around := refusingAround log doubtfulFile
    let later := (reload around.recording .outside ['a'] (shortLoaded log)).2
    ∃ scene, Scene.Reached around.backend true (.new {}) scene ∧
      Shown (shortLoaded log) none scene ∧
      (reload around.recording .outside ['a'] (shortLoaded log)).1 =
        .error (.build (.compile .fragment [⟨some 5, "0:5(1): error".toList⟩])) ∧
      Alike around.recording (shortLoaded log) later ∧
      LosesRetired around.backend (shortLoaded log) later := by
  intro log around later
  have herror : (reload around.recording .outside ['a'] (shortLoaded log)).1 =
      .error (.build (.compile .fragment [⟨some 5, "0:5(1): error".toList⟩])) := by decide +kernel
  have hloaded : ∃ scene, Scene.Reached (Headless.backend (refusing log)) true (.new {}) scene ∧
      Staged (shortLoaded log) none scene :=
    exists_staged_acquire (refusingAround log Bundle.shortFile) {} ['a'] (by decide +kernel)
  obtain ⟨scene, hreached, hstaged⟩ := hloaded
  obtain ⟨halike, hloses, -⟩ := reload_failed around (Headless.backend_returns _)
    (Headless.backend_separates _) hreached hstaged.toShown (.inl rfl) herror (by decide +kernel)
  exact ⟨scene, hreached, hstaged.toShown, herror, halike, hloses⟩

/-- A log with the greatest line number ends the job, and the vertex stage is left behind. -/
theorem reload_leaves_stage :
    let log := "0:4294967295(1): error".toList
    let around := refusingAround log doubtfulFile
    (reload around.recording .outside ['a'] (shortLoaded log)).1 =
        .error (.thread .unavailable) ∧
      ((shortLoaded log).ledger around.backend).stages = [] ∧
      ((reload around.recording .outside ['a'] (shortLoaded log)).2.ledger around.backend).stages =
        [⟨4⟩] := by
  decide +kernel

end Registry

end ShaderBundle
