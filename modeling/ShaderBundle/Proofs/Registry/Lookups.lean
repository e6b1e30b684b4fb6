import ShaderBundle.Proofs.Headless.Lookups
import ShaderBundle.Proofs.Registry.FailedReload

/-!
# Lookups through the registry

A registry answers a lookup from what the program remembers, and if it remembers nothing it has the
backend asked on the graphics thread. A job that runs on that thread cannot have anything asked
through the registry, and a question that cannot be put counts as an inactive name. So within a job
an active name may be reported as inactive, until somebody else looks it up.

## What is right and what is not

A lookup is right if it comes to what the backend would tell. For names that are known it has to be
shown that what is remembered is still true, however long ago it was learnt; for names that are not
known, that the orders that wait, which are carried out before the question, do not change the
answer. Both hold, since a linked program keeps its locations until it is linked again and no
object's program ever is (`Thread.Upholds`). What is left are the lookups of jobs.
`location_resolved_iff` says exactly when one of them is right by chance or memory: the name is
known, or it is inactive anyway.

## From builds to lookups

`Upholds` is shown step by step along a run. Builds link programs, but new ones only, whose objects
remember nothing yet. Visits store what they have learnt, and the object stays faithful by what is
known of a single program. Destructions speak of one program that has no object afterwards. The
statement relates two states of the thread, and is composed; that is possible because references are
not used again, so an object that is there at both ends was there all the time.

## Main definitions

* `Thread.Faithful`: all objects are faithful.
* `Thread.Upholds`: the backend tells the same about objects that stay, and faithful objects are
  followed by faithful ones.

## Main results

* `Scene.Custody.upholds_reached`: however callers and the graphics thread interleave, this is so.
* `Registry.location_resolved_iff`: a lookup comes to the backend's answer unless it is made within
  a job, for an active name that is not known yet.
* `Registry.location_ne_within`: such a lookup, of a job that is told that an active name is not.

## Implementation notes

Names of uniforms and of attributes are looked up alike, so the kind of name is a parameter
throughout. The backend may crash over a question, and then it has no answer that the lookup could
come to.
-/

namespace ShaderBundle

variable {σ : Type} {backend : Backend σ} {events : List Event}

/-- A build is not about programs that were there before, crash or not. -/
theorem Build.ignores_of_meets {blocks : List Block} {validate : Bool} {ledger : Ledger}
    {answer : Option (Except BuildError Program)}
    (h : Job.Meets (Course blocks validate) answer events) (hfresh : ledger.Fresh events)
    {id : ProgramId} (hid : id ∈ ledger.programs) : Ignores id events := by
  cases answer with
  | some answer => exact Course.ignores h hfresh hid
  | none =>
    obtain ⟨answer, rest, hcourse, hquiet⟩ := h
    have hall := Ledger.along_append.mpr ⟨hfresh, Ledger.fresh_of_quiet hquiet _⟩
    exact (ignores_append.mp (hcourse.ignores hall hid)).1

namespace Thread

variable {thread middle later : Thread (List Event × σ)} {ref : ProgramRef}

/-! ### What is upheld

All objects are compared at once. That those of different programs do not get in each other's way is
a matter of `Thread.Alive`. -/

/-- All objects are faithful. -/
def Faithful (backend : Backend σ) (thread : Thread (List Event × σ)) : Prop :=
  ∀ kept ∈ thread.programs, kept.2.Faithful backend thread.device.2

/-- One state of the thread comes after another one and upholds what is known of objects. -/
structure Upholds (backend : Backend σ) (thread later : Thread (List Event × σ)) : Prop where
  /-- The backend tells the same about the programs of objects that stay. -/
  told : ∀ pair ∈ thread.ids, pair ∈ later.ids → ∀ (kind : NameKind) (name : Text),
    ((kind.locate backend pair.2 name).run later.device.2).1 =
      ((kind.locate backend pair.2 name).run thread.device.2).1
  /-- Objects are faithful if they were. -/
  faithful : thread.Faithful backend → later.Faithful backend

theorem upholds_refl (backend : Backend σ) (thread : Thread (List Event × σ)) :
    thread.Upholds backend thread :=
  ⟨fun _ _ _ _ _ => rfl, fun h => h⟩

/-- A reference is not used again, so an object that is there before and behind is there in
between. -/
theorem Upholds.trans (h : thread.Upholds backend middle) (h' : middle.Upholds backend later)
    (halive : thread.Alive) (honward : thread.Onward middle) (honward' : middle.Onward later) :
    thread.Upholds backend later where
  told pair hpair hlater kind name := by
    have hmiddle : pair ∈ middle.ids := (honward'.old pair hlater).resolve_right fun hnew => by
      have hold := halive.made pair.1 (List.mem_map_of_mem hpair)
      exact absurd (Nat.lt_of_lt_of_le hold honward.made) (Nat.not_lt.mpr hnew)
    exact (h'.told pair hmiddle hlater kind name).trans (h.told pair hpair hmiddle kind name)
  faithful hfaithful := h'.faithful (h.faithful hfaithful)

/-- What is said links and deletes no program of an object that stays, and what is not an old object
is a faithful one. -/
theorem upholds_of_path (hlasting : backend.Lasting)
    (hpath : backend.Path thread.device.2 events later.device.2)
    (hkeeps : ∀ pair ∈ thread.ids, pair ∈ later.ids → KeepsLink pair.2 events)
    (hkept : thread.Faithful backend → ∀ kept ∈ later.programs,
      kept ∈ thread.programs ∨ kept.2.Faithful backend later.device.2) :
    thread.Upholds backend later where
  told pair hpair hlater := hlasting.of_path hpath (hkeeps pair hpair hlater)
  faithful hfaithful kept hlater := (hkept hfaithful kept hlater).elim
    (fun hold => (hfaithful kept hold).of_path hlasting hpath
      (hkeeps _ (List.mem_map_of_mem hold) (List.mem_map_of_mem hlater)))
    fun hnew => hnew

/-! ### What the thread does

For each thing that the thread does, the conversation is looked at: it must not link or delete the
program of an object that stays. -/

/-- What is said for a build. An object that was not there before remembers nothing. -/
theorem said_build (thread : Thread (List Event × σ)) (backend : Backend σ) (bundle : Bundle)
    (validate : Bool) :
    ∃ answer events,
      (thread.build backend.recording bundle validate).2.log = thread.log ++ events ∧
      backend.Path thread.device.2 events
        (thread.build backend.recording bundle validate).2.device.2 ∧
      Job.Meets (Build.Course bundle.blocks validate) answer events ∧
      ∀ kept ∈ (thread.build backend.recording bundle validate).2.programs,
        kept ∈ thread.programs ∨ ∀ kind : NameKind, kind.answers kept.2 = {} := by
  obtain ⟨events, hlog, hpath, hmeets⟩ :=
    perform_records (@Build.build_records σ backend bundle validate) thread
  refine ⟨_, events, ?_, ?_, hmeets, ?_⟩
  all_goals
    rw [Thread.build]
    rcases hperform : thread.perform (Build.build backend.recording bundle validate) with
      ⟨_ | error | program, later⟩
    all_goals
      rw [hperform] at hlog hpath hmeets
      have hprograms : later.programs = thread.programs :=
        (congrArg (Thread.programs ·.2) hperform).symm
  -- A build that ends well adds an object, and that has asked for nothing yet.
  case refine_3.some.ok =>
    intro kept hkept
    have hkept' : kept ∈ later.programs ++ [(⟨later.made⟩, program)] := hkept
    rw [hprograms] at hkept'
    refine (List.mem_append.mp hkept').imp_right fun hnew => ?_
    rw [List.mem_singleton.mp hnew]
    exact Program.answers_of_course hmeets
  case refine_3.none | refine_3.some.error =>
    exact fun kept hkept => .inl (hprograms ▸ hkept)
  all_goals first | exact hlog | exact hpath

theorem Alive.upholds_build (h : thread.Alive) (hlasting : backend.Lasting) (bundle : Bundle)
    (validate : Bool)
    (hfresh : Ledger.Fresh {} (thread.build backend.recording bundle validate).2.log) :
    thread.Upholds backend (thread.build backend.recording bundle validate).2 := by
  obtain ⟨answer, events, hlog, hpath, hmeets, hkept⟩ :=
    thread.said_build backend bundle validate
  rw [hlog] at hfresh
  have hevents := (Ledger.along_append.mp hfresh).2
  refine upholds_of_path hlasting hpath (fun pair hpair _ => ?_) fun _ kept hlater => ?_
  · exact (Build.ignores_of_meets hmeets hevents (h.exist pair hpair)).keepsLink
  · exact (hkept kept hlater).imp_right fun hforget => Program.faithful_of_forget hforget _

/-- An object that is stored takes the place of another one. -/
theorem mem_programs_store {thread : Thread σ} {stored : Program} {kept : ProgramRef × Program}
    (h : kept ∈ (thread.store ref stored).programs) :
    kept ∈ thread.programs ∨ kept = (ref, stored) := by
  obtain ⟨old, hold, rfl⟩ := List.mem_map.mp h
  by_cases href : old.1 = ref
  · exact .inr (if_pos href)
  · exact .inl (if_neg href ▸ hold)

theorem upholds_visit (hlasting : backend.Lasting) {program : Program}
    (hprogram : thread.program? ref = some program) (visit : Program.Visit) :
    thread.Upholds backend (thread.withProgram ref program (visit.job backend.recording)).2 := by
  have hmem : (ref, program) ∈ thread.programs := mem_programs_of_program? hprogram
  obtain ⟨events, -, hpath, hmeets⟩ :=
    perform_records (@Program.visit_records σ backend visit program) thread
  have hvisiting : Visiting program.id events :=
    hmeets.elim (fun _ _ hvisited => hvisited.2.2) fun _ _ h => h.of_append
  rw [withProgram]
  rcases hperform : thread.perform (visit.job backend.recording program) with
    ⟨_ | ⟨answer, stored⟩, later⟩
  all_goals
    rw [hperform] at hpath
    have hprograms : later.programs = thread.programs :=
      (congrArg (Thread.programs ·.2) hperform).symm
  -- The visit has crashed, and the object remembers what it did.
  · exact upholds_of_path hlasting hpath (fun pair _ _ => hvisiting.keepsLink pair.2)
      fun _ kept hkept => .inl (hprograms ▸ hkept)
  · show thread.Upholds backend (later.store ref stored)
    refine upholds_of_path hlasting hpath
      (fun pair _ _ => hvisiting.keepsLink pair.2) fun hfaithful kept hkept => ?_
    -- What is stored was learnt on the visit, on top of what was known.
    refine (mem_programs_store hkept).imp (fun hold => hprograms ▸ hold) ?_
    rintro rfl
    have hanswer : ((visit.job backend.recording program).run thread.device).1 =
        some (answer, stored) := congrArg Prod.fst hperform
    have hdevice : ((visit.job backend.recording program).run thread.device).2 = later.device :=
      congrArg (Thread.device ·.2) hperform
    have hrun : (visit.job backend.recording program).run (thread.device.1, thread.device.2) =
        (some (answer, stored), later.device.1, later.device.2) := Prod.ext hanswer hdevice
    obtain ⟨_, -, hlearns⟩ := Program.visit_learns visit hrun
    exact hlearns.faithful (hfaithful _ hmem) (hlasting.of_path hpath (hvisiting.keepsLink _))

theorem upholds_unuse (hlasting : backend.Lasting) (thread : Thread (List Event × σ)) :
    thread.Upholds backend (thread.perform (backend.recording.use none)).2 := by
  have hrecords := @Job.records_operation σ Unit backend _ _ _ (.use none)
  obtain ⟨events, hlog, hpath, -⟩ := perform_records hrecords thread
  have hsaid : (thread.perform (backend.recording.use none)).2.log =
      thread.log ++ [.call (.use none)] := Job.log_run_recorded _ _ _ _
  obtain rfl : events = [.call (.use none)] := List.append_cancel_left (hlog.symm.trans hsaid)
  exact upholds_of_path hlasting hpath (fun _ _ _ => by simp [KeepsLink])
    fun _ kept hkept => .inl hkept

theorem Alive.upholds_destroy (h : thread.Alive) (hlasting : backend.Lasting) (ref : ProgramRef) :
    thread.Upholds backend (thread.destroy backend.recording ref).2 := by
  obtain ⟨-, hdiscards, -⟩ := h.discards_destroy backend ref
  obtain ⟨events, -, hpath, hignores⟩ := hdiscards.said
  refine upholds_of_path hlasting hpath (fun pair _ hpair => (hignores pair hpair).keepsLink)
    fun _ kept hkept => .inl ?_
  rw [hdiscards.objects] at hkept
  exact (List.mem_filter.mp hkept).1

end Thread

namespace Scene

variable {validate : Bool} {device : σ} {scene later : Scene σ}

/-! ### Runs -/

/-- **Whatever the graphics thread does, it upholds what is known of objects.** -/
theorem Custody.upholds_turn (h : scene.Custody) (hlasting : backend.Lasting)
    (hturn : Turn backend validate scene later) (hfresh : Ledger.Fresh {} later.thread.log) :
    scene.thread.Upholds backend later.thread := by
  cases hturn with
  | start | leave | done => exact Thread.upholds_refl _ _
  | build => exact h.alive.upholds_build hlasting _ _ hfresh
  | visit _ _ hprogram visit => exact Thread.upholds_visit hlasting hprogram visit
  | unuse => exact Thread.upholds_unuse hlasting _
  | @destroy ref rest =>
    have hdestroy := h.alive.upholds_destroy hlasting ref
    rw [destroyed]
    split
    -- The deletion may have crashed. The object is gone in any case.
    · rcases hcase : scene.thread.destroy backend.recording ref with ⟨_ | _, thread⟩
      all_goals
        rw [hcase] at hdestroy
        exact hdestroy
    · exact Thread.upholds_refl _ _

/-- Callers do nothing at the backend. -/
theorem Custody.upholds_step (h : scene.Custody) (hlasting : backend.Lasting)
    (hstep : Step backend validate scene later) (hfresh : Ledger.Fresh {} later.thread.log) :
    scene.thread.Upholds backend later.thread := by
  cases hstep with
  | turn hturn => exact h.upholds_turn hlasting hturn hfresh
  | begin _ _ result => cases result <;> exact Thread.upholds_refl _ _
  | _ => exact Thread.upholds_refl _ _

/-- **However callers and the graphics thread interleave, what is known of objects is upheld.** -/
theorem Custody.upholds_reached (h : scene.Custody) (hregular : scene.Regular)
    (hlasting : backend.Lasting) (hreached : Reached backend validate scene later)
    (hfresh : Ledger.Fresh {} later.thread.log) : scene.thread.Upholds backend later.thread := by
  induction hreached with
  | refl => exact Thread.upholds_refl _ _
  | step hmiddle hstep ih =>
    have hmiddle' := fresh_of_log hstep.log hfresh
    obtain ⟨hcustody, hregular', honward⟩ := h.reached hregular hmiddle hmiddle'
    obtain ⟨-, -, honward'⟩ := hcustody.step hregular' hstep hfresh
    exact (ih hmiddle').trans (hcustody.upholds_step hlasting hstep hfresh) h.alive honward honward'

end Scene

namespace Registry

variable {validate : Bool} {device : σ} {registry : Registry (List Event × σ)}
  {frame : Option (List ProgramRef)} {scene : Scene σ}

/-! ### Lookups through the registry

A registry is shown by a scene, and its objects are those of the scene. The case analysis is on who
asks and whether the name is known. -/

/-- The program of a live handle has an object. -/
theorem Shown.exists_program? (h : Shown registry frame scene) (hcustody : scene.Custody)
    {handle : Handle} {entry : Entry} (hentry : registry.table.entry? handle = some entry) :
    ∃ program, registry.program? handle = some (entry.program, program) := by
  obtain ⟨name, -, hslot, -⟩ := Slots.entry?_eq_some_iff.mp hentry
  rw [← h.table] at hslot
  obtain ⟨id, hid, -⟩ := hcustody.ready hslot
  rw [h.thread] at hid
  obtain ⟨program, hprogram⟩ := Option.isSome_iff_exists.mp
    (Thread.program?_isSome_iff.mpr (List.mem_map_of_mem hid))
  have hobject : registry.thread.program? entry.program = some program := hprogram
  exact ⟨program, by rw [Registry.program?, hentry, Option.bind_some, hobject, Option.map_some]⟩

/-- Objects of a registry that is shown are faithful. -/
theorem Shown.faithful (h : Shown registry frame scene) (hlasting : backend.Lasting)
    (hreached : Scene.Reached backend validate (.new device) scene)
    (hfresh : Ledger.Fresh {} registry.thread.log) : registry.thread.Faithful backend := by
  have hupholds := (Scene.custody_new device).upholds_reached (Scene.regular_new device) hlasting
    hreached (h.log ▸ hfresh)
  have hfaithful := hupholds.faithful fun _ hkept => nomatch hkept
  rw [h.thread] at hfaithful
  exact hfaithful

/-- **The orders that wait do not move the names of a live program.** -/
theorem Staged.told_drain (h : Staged registry none scene) (hlasting : backend.Lasting)
    (hfresh : Ledger.Fresh {} registry.thread.log) {handle : Handle} {ref : ProgramRef}
    {program : Program} (hprogram : registry.program? handle = some (ref, program)) :
    (registry.thread.drain backend.recording).program? ref = some program ∧
      ∀ (kind : NameKind) (name : Text),
        ((kind.locate backend program.id name).run
            (registry.thread.drain backend.recording).device.2).1 =
          ((kind.locate backend program.id name).run registry.thread.device.2).1 := by
  have hobject := program?_of_program? hprogram
  have hdrained : (registry.thread.drain backend.recording).program? ref = some program :=
    (h.program?_drain (mem_programs_of_program? hprogram)).trans hobject
  have hfresh' := (registry.thread.hushed_drain backend).fresh hfresh
  have hdrain : Enacts backend true none none registry
      { registry with thread := registry.thread.drain backend.recording } := enacts_drain
  -- The orders are steps on the scene, and what steps uphold holds behind them.
  obtain ⟨later, hreached, hlater, -⟩ := hdrain.enact h hfresh'
  have hupholds := h.custody.upholds_reached h.regular hlasting hreached (hlater.log ▸ hfresh')
  have htold := hupholds.told (ref, program.id)
    (by rw [h.thread]; exact Thread.mem_ids_of_program? hobject)
    (by rw [hlater.thread]; exact Thread.mem_ids_of_program? hdrained)
  rw [h.thread, hlater.thread] at htold
  exact ⟨hdrained, htold⟩

/-- A question from outside about a live program comes to the backend's answer, if there is one. -/
theorem Staged.fst_ask_lookup (h : Staged registry none scene) {around : Surroundings σ}
    (hlasting : around.backend.Lasting) (hfresh : Ledger.Fresh {} registry.thread.log)
    {handle : Handle} {ref : ProgramRef} {program : Program}
    (hprogram : registry.program? handle = some (ref, program)) {kind : NameKind} {name : Text}
    (hknown : (kind.answers program).get? name = none) :
    (ask around.recording .outside handle
        (fun program => kind.lookup around.recording.backend program name) registry).1 =
      answerOf ((kind.locate around.backend program.id name).run registry.thread.device.2).1 := by
  obtain ⟨hdrained, htold⟩ := h.told_drain hlasting hfresh hprogram
  have hlookup := NameKind.fst_run_lookup kind program name around.backend
    (registry.thread.drain around.backend.recording).device
  rw [hknown] at hlookup
  have hask := fst_ask_outside around.recording
    (fun program => kind.lookup around.recording.backend program name) hprogram hdrained
  exact hask.trans (congrArg answerOf (hlookup.trans (htold kind name)))

/-- **A lookup comes to the backend's answer unless it is made within a job, for an active name that
is not known yet.** It comes to an inactive name also if the backend crashes over the question. A
caller from outside whose name is not known waits until the thread is in no job. -/
theorem location_resolved_iff (around : Surroundings σ) (hlasting : around.backend.Lasting)
    (hreached : Scene.Reached around.backend validate (.new device) scene)
    (hshown : Shown registry frame scene) (hfresh : Ledger.Fresh {} registry.thread.log)
    {handle : Handle} {entry : Entry} (hentry : registry.table.entry? handle = some entry) :
    ∃ program, registry.program? handle = some (entry.program, program) ∧
      ∀ (caller : Caller) (kind : NameKind) (name : Text),
        (caller = .job ∨ frame = none ∨ ((kind.answers program).get? name).isSome) →
          let report := ((kind.locate around.backend program.id name).run
            registry.thread.device.2).1
          let found := (location around.recording caller handle kind name registry).1
          (∀ answer, report = some answer → (found = answer ↔
            caller = .outside ∨ ((kind.answers program).get? name).isSome ∨ answer = none)) ∧
          (report = none → found = none) := by
  obtain ⟨hcustody, hregular, -⟩ :=
    (Scene.custody_new device).reached (Scene.regular_new device) hreached (hshown.log ▸ hfresh)
  obtain ⟨program, hprogram⟩ := hshown.exists_program? hcustody hentry
  refine ⟨program, hprogram, fun caller kind name hturn => ?_⟩
  have hobject := Thread.mem_programs_of_program? (program?_of_program? hprogram)
  -- What the object remembers is what the backend would tell.
  have hfaithful := hshown.faithful hlasting hreached hfresh _ hobject
  intro report found
  have hfound : found = _ := fst_location around.recording caller handle kind name registry
  rw [hprogram, Option.bind_some] at hfound
  rcases hknown : (kind.answers program).get? name with _ | known
  · rw [hknown] at hfound hturn
    cases caller with
    -- The question is refused, so the lookup is right only if the name is inactive.
    | job =>
      have hask : (ask around.recording .job handle
          (fun program => kind.lookup around.recording.backend program name) registry).1 =
            .error (.thread .reentrant) := by
        rw [ask, hprogram]
      rw [hask] at hfound
      simp [hfound, eq_comm]
    | outside =>
      -- The thread is in no job, so the question is put.
      obtain rfl : frame = none := by simpa using hturn
      have hstaged : Staged registry none scene := ⟨hshown, hcustody, hregular⟩
      rw [hstaged.fst_ask_lookup hlasting hfresh hprogram hknown] at hfound
      rcases hreport : ((kind.locate around.backend program.id name).run
        registry.thread.device.2).1 with _ | answer
      all_goals
        rw [hreport] at hfound
        simpa [report, hreport, answerOf] using hfound
  -- The name is known, and nobody is asked.
  · have hreport : report = some known := hfaithful kind name known hknown
    rw [hknown] at hfound
    simp [hreport, hfound]

/-! ### A lookup within a job

A file with an active vector, of which nothing is known when a job asks for it. The same job is told
the truth as soon as the name is known, and that takes a caller from outside. -/

/-- The headless backend with a front end that reads a vector off fragment stages, and the short
file behind the name `a`. -/
def inkAround : Surroundings Headless.State where
  backend := Headless.backend Headless.twoNames
  loader := Loader.ofTable [(['a'], Bundle.shortFile)]

/-- A registry with that file loaded. -/
def inked : Registry (List Event × Headless.State) :=
  (acquire inkAround.recording .outside ['a'] (opened {})).2

/-- The place of the vector, looked up through the registry by a job. -/
def lookWithin (registry : Registry (List Event × Headless.State)) :
    Except RegistryError (Option Location) :=
  (run inkAround.recording .outside (fun _ registry =>
    let (found, registry) := location inkAround.recording .job ⟨1⟩ .uniform ['u'] registry
    (some found, registry)) registry).1

/-- The backend finds the vector, and the registry tells a job that it is inactive. It tells the
place as soon as somebody outside has looked it up. -/
theorem location_ne_within :
    (inked.program? ⟨1⟩).map (fun found =>
        ((inkAround.backend.uniformLocation found.2.id ['u']).run inked.thread.device.2).1) =
      some (some (some ⟨0⟩)) ∧
    lookWithin inked = .ok none ∧
    lookWithin (location inkAround.recording .outside ⟨1⟩ .uniform ['u'] inked).2 =
      .ok (some ⟨0⟩) := by
  decide +kernel

/-- That registry while the graphics thread is in a job with its program. -/
def inkedWithin : Registry (List Event × Headless.State) :=
  { inked with thread := inked.thread.handling inked.thread.queue [⟨0⟩] }

/-- What the job is told, by the general statement. -/
theorem location_resolved_iff_inkedWithin :
    ∃ scene, Scene.Reached inkAround.backend true (.new {}) scene ∧
      Shown inkedWithin (some [⟨0⟩]) scene ∧
      (location inkAround.recording .job ⟨1⟩ .uniform ['v'] inkedWithin).1 = none ∧
      (location inkAround.recording .job ⟨1⟩ .uniform ['u'] inkedWithin).1 ≠ some ⟨0⟩ := by
  obtain ⟨scene, hreached, hstaged⟩ : ∃ scene,
      Scene.Reached inkAround.backend true (.new {}) scene ∧ Staged inked none scene :=
    exists_staged_acquire inkAround {} ['a'] (by decide +kernel)
  let report (name : Text) : Option (Option Location) :=
    ((NameKind.uniform.locate inkAround.backend Headless.sketch.id name).run
      inkedWithin.thread.device.2).1
  have hinked : inked.thread.queue = [] ∧ inked.table.programs = [⟨0⟩] ∧
      (inkedWithin.table.entry? ⟨1⟩).isSome ∧
      inkedWithin.program? ⟨1⟩ = some (⟨0⟩, Headless.sketch) ∧
      report ['u'] = some (some ⟨0⟩) ∧ report ['v'] = some none := by
    decide +kernel
  obtain ⟨hqueue, hprograms, hentry, hobject, hfound, hmissing⟩ := hinked
  -- A caller hands a job in, and the thread carries it out.
  have henter : Enacts inkAround.backend true none (some [⟨0⟩]) inked inkedWithin :=
    enacts_enter hqueue (by rw [hprograms]; exact fun _ href => href)
  obtain ⟨later, hlater, hstaged', -⟩ := henter.enact hstaged (by decide +kernel)
  have hreached' := hreached.trans hlater
  obtain ⟨entry, hentry⟩ := Option.isSome_iff_exists.mp hentry
  obtain ⟨program, hprogram, hlookups⟩ :=
    location_resolved_iff inkAround (Headless.backend_lasting _) hreached' hstaged'.toShown
      (by decide +kernel) hentry
  obtain rfl : Headless.sketch = program :=
    congrArg Prod.snd (Option.some.inj (hobject.symm.trans hprogram))
  refine ⟨later, hreached', hstaged'.toShown, ?_, ?_⟩
  · have hmissed := (hlookups .job .uniform ['v'] (.inl rfl)).1 none hmissing
    exact hmissed.mpr (.inr (.inr rfl))
  -- The backend knows the vector, but the job comes from nowhere else and nothing is remembered.
  · have hpresent := (hlookups .job .uniform ['u'] (.inl rfl)).1 (some ⟨0⟩) hfound
    intro hlocated
    rcases hpresent.mp hlocated with hcaller | hknown | hnone
    · cases hcaller
    · cases hknown
    · cases hnone

end Registry

end ShaderBundle
