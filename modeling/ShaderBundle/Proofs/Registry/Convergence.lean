import ShaderBundle.Proofs.Graphics.Keeps
import ShaderBundle.Proofs.Registry.LookingAfter
import ShaderBundle.Proofs.Registry.Versions

/-!
# Looking after all names

Over a backend whose answer to a build is a matter of the file, what comes of looking after all
names is a matter of their texts: it can be told name by name, and it comes to the same in any
order. To do it once more changes nothing.

## Which backends

A backend is free to refuse a file today and to take it tomorrow, and then nothing of the kind
holds. The assumption is that a function from files to answers gives what builds come to, in a set
of states that builds, deletions and changes of the current program stay in (`Backend.Judges`). It
is an assumption about answers only: numbers of programs may be as they like, and builds may move
other parts of the state. The headless backend is of this kind as long as its front end looks at
stages only, as is shown at the end; in general it is not, since its table of varyings remembers.

## How order drops out

What is to be done about a name depends on its own state, its text and the answer to its build. None
of these is touched by what is done about another name: the states of other names stay
(`slot?_lookAfter_of_ne`), texts are given for the whole pass, and the answer is a matter of the
file. So the induction over the names in question carries only that the device is in one of those
states, and each name is told by its state before the pass. Programs are numbered in the order of
their builds, which is why `Renews` says of a new one just that its number was not handed out
before.

## Why a second time does nothing

A name that was renewed has a snapshot of its present text, for which there is nothing to do. A
failed name whose text is another one is forgotten, and then it is not looked after at all. A ready
name whose text fails is tried again and fails as before, with the same report. This takes a loader
that gives the same text under the same name (`Loader.Honest`).

## Main definitions

* `Backend.Judges`: the answer to a build is a matter of the file.
* `Registry.review`: what the present text of a ready name comes to.
* `Registry.Renews`: what becomes of the state of a name.

## Main results

* `Registry.judged_reloadChangedOf`: what becomes of the names that are looked after, and the
  reports.
* `Registry.reloadChanged_converges`: what becomes of all names, and what comes of a second time.
-/

namespace ShaderBundle

/-! ### Backends

Orders that wait are carried out before a build, so what is assumed of the states has to survive
destructions as well. -/

/-- The answer to a build is a matter of the file alone, in states that builds, deletions of
programs and changes of the current program do not lead out of. -/
structure Backend.Judges {σ : Type} (P : σ → Prop) (backend : Backend σ) (validate : Bool)
    (verdict : Bundle → Except BuildError Unit) : Prop where
  /-- Builds do not lead out of them. -/
  build : ∀ bundle, (Build.build backend bundle validate).Keeps P
  /-- Deletions do not. -/
  deleteProgram : ∀ program, (backend.deleteProgram program).Keeps P
  /-- Changes of the current program do not. -/
  use : ∀ program, (backend.use program).Keeps P
  /-- The answer is a matter of the file. -/
  answer : ∀ bundle (thread : Thread σ), P thread.device →
    (thread.build backend bundle validate).1.map (fun _ => ()) = verdict bundle

namespace Thread

variable {σ : Type} {P : σ → Prop} {backend : Backend σ} {validate : Bool}
  {verdict : Bundle → Except BuildError Unit} {thread : Thread σ}

theorem destroy_keeps (h : backend.Judges P validate verdict) (hdevice : P thread.device)
    (ref : ProgramRef) : P (thread.destroy backend ref).2.device := by
  rw [destroy]
  split
  · exact hdevice
  · next program _ => exact h.deleteProgram program.id thread.device hdevice

theorem obey_keeps (h : backend.Judges P validate verdict) (hdevice : P thread.device)
    (order : Order) : P (thread.obey backend order).device :=
  obey_induction (P := fun later => P later.device)
    (fun ref _ _ hmiddle => destroy_keeps h hmiddle ref)
    (fun program middle hmiddle => h.use program middle.device hmiddle) hdevice

theorem device_build (backend : Backend σ) (thread : Thread σ) (bundle : Bundle) (validate : Bool) :
    (thread.build backend bundle validate).2.device =
      ((Build.build backend bundle validate).run thread.device).2 := by
  rw [build, perform]
  rcases (Build.build backend bundle validate).run thread.device with ⟨_ | _ | _, _⟩ <;> rfl

/-- Carrying the orders out that wait keeps what holds of the device. -/
theorem drain_keeps (h : backend.Judges P validate verdict) (hdevice : P thread.device) :
    P (thread.drain backend).device :=
  drain_induction (P := fun later => P later.device)
    (fun order _ _ hmiddle => obey_keeps h hmiddle order) hdevice

end Thread

namespace Registry

variable {σ : Type} {P : σ → Prop} {around : Surroundings σ}
  {verdict : Bundle → Except BuildError Unit} {registry later : Registry σ} {name : Text}

/-! ### Texts

`review` is `lookAfter` without a registry: the text is read, compared and taken apart, and the
answer of the backend is looked up. It is evaluated at a snapshot and not at a name, so that it can
be compared before and after. -/

/-- What the present text of a ready name comes to: a failure, nothing if it is the text of the
snapshot, or else the next snapshot. -/
def review (around : Surroundings σ) (verdict : Bundle → Except BuildError Unit) (source : Source) :
    Except RegistryError (Option Source) :=
  match around.loader.load source.name with
  | .error error => .error (.load error)
  | .ok fresh =>
    if fresh.text = source.text then .ok none
    else match Bundle.split around.options.split fresh.name fresh.text with
      | .error error => .error (.split error)
      | .ok bundle =>
        match verdict bundle with
        | .error error => .error (.build error)
        | .ok () => .ok (some (fresh.succeeding source))

/-- The report on a name that is looked after. -/
def reportOn (around : Surroundings σ) (verdict : Bundle → Except BuildError Unit) :
    Text × Slots.Candidate → Option (Text × RegistryError)
  | (name, .ready source) =>
    match review around verdict source with
    | .error error => some (name, error)
    | .ok _ => none
  | (_, .failed _) => none

/-- What becomes of the state of a name when it is looked after, and programs were made up to a
number before. -/
inductive Renews (around : Surroundings σ) (verdict : Bundle → Except BuildError Unit) (made : Nat)
    (name : Text) : Option Slot → Option Slot → Prop where
  | unloaded : Renews around verdict made name none none
  /-- The text is the same, or it cannot be read or built. -/
  | untouched {entry : Entry}
    (hreview : ∀ fresh, review around verdict entry.source ≠ .ok (some fresh)) :
    Renews around verdict made name (some (.ready entry)) (some (.ready entry))
  /-- The text is another one, and a new program is built from it. -/
  | renewed {entry : Entry} {fresh : Source} {program : ProgramRef}
    (hreview : review around verdict entry.source = .ok (some fresh))
    (hmade : made ≤ program.serial) :
    Renews around verdict made name (some (.ready entry))
      (some (.ready { entry with source := fresh, program }))
  /-- The text cannot be read, or it is the same. -/
  | remembered {error : RegistryError} {source : Option Source}
    (htext : ¬HasOtherText around.loader name source) :
    Renews around verdict made name (some (.failed error source)) (some (.failed error source))
  /-- The text is another one. -/
  | forgotten {error : RegistryError} {source : Option Source}
    (htext : HasOtherText around.loader name source) :
    Renews around verdict made name (some (.failed error source)) none

theorem Renews.mono {made more : Nat} {slot slot' : Option Slot}
    (h : Renews around verdict more name slot slot') (hle : made ≤ more) :
    Renews around verdict made name slot slot' := by
  cases h with
  | unloaded => exact .unloaded
  | untouched hreview => exact .untouched hreview
  | renewed hreview hmade => exact .renewed hreview (hle.trans hmade)
  | remembered htext => exact .remembered htext
  | forgotten htext => exact .forgotten htext

/-! ### One name

A reload that comes to a build and one that fails before it differ in what they leave behind, but
not in what is seen at the name; a failure at either place leaves the entry untouched. -/

theorem review_of_text_ne (verdict : Bundle → Except BuildError Unit) {source fresh : Source}
    (hload : around.loader.load source.name = .ok fresh) (htext : fresh.text ≠ source.text) :
    review around verdict source =
      match Bundle.split around.options.split fresh.name fresh.text with
      | .error error => .error (.split error)
      | .ok bundle =>
        match verdict bundle with
        | .error error => .error (.build error)
        | .ok () => .ok (some (fresh.succeeding source)) := by
  rw [review, hload]
  exact if_neg htext

/-- Another text is taken apart, and it is the next version. -/
theorem prepare_of_text_ne (name : Text) {source fresh : Source}
    (hload : around.loader.load source.name = .ok fresh) (htext : fresh.text ≠ source.text) :
    prepare around name (some source) =
      match Bundle.split around.options.split fresh.name fresh.text with
      | .ok bundle => .ok ⟨fresh.succeeding source, bundle⟩
      | .error error => .error ⟨.split error, some (fresh.succeeding source)⟩ := by
  have hsnapshot : snapshot around.loader name (some source) = .ok (fresh.succeeding source) := by
    rw [snapshot, refresh_eq, hload]
    simp [Loader.change, Source.sameContent, htext]
  rw [prepare, hsnapshot]
  rfl

/-- What is done about one name is what its text comes to, and it leaves the device as it is to
be. -/
structure Settles (P : σ → Prop) (around : Surroundings σ)
    (verdict : Bundle → Except BuildError Unit)
    (name : Text) (registry later : Registry σ) : Prop where
  /-- The state of the name. -/
  renews : Renews around verdict registry.thread.made name (registry.table.slot? name)
    (later.table.slot? name)
  /-- The device. -/
  device : P later.thread.device
  /-- Programs are numbered. -/
  made : registry.thread.made ≤ later.thread.made

/-- What a build behind the orders that wait comes to is a matter of the file. -/
theorem builtNext_judged (hjudges : around.backend.Judges P around.options.validate verdict)
    (hdevice : P registry.thread.device) (prepared : Prepared) :
    P (builtNext around prepared registry).2.device ∧
      match verdict prepared.bundle with
      | .error error => (builtNext around prepared registry).1 = .error error ∧
          (builtNext around prepared registry).2.made = registry.thread.made
      | .ok () => (builtNext around prepared registry).1 = .ok ⟨registry.thread.made⟩ ∧
          (builtNext around prepared registry).2.made = registry.thread.made + 1 := by
  -- The orders that wait come first. They make no programs.
  have hdrained := Thread.drain_keeps hjudges hdevice
  have hmade : (registry.thread.drain around.backend).made = registry.thread.made :=
    Thread.made_drain
  refine ⟨?_, ?_⟩
  · rw [builtNext, Thread.device_build]
    exact hjudges.build prepared.bundle _ hdrained
  · rw [← hjudges.answer prepared.bundle _ hdrained, builtNext, ← hmade]
    rcases Thread.build_cases around.backend (registry.thread.drain around.backend) prepared.bundle
      around.options.validate with ⟨program, device, -, hbuild⟩ | ⟨error, device, hbuild⟩
    all_goals
      rw [hbuild]
      exact ⟨rfl, rfl⟩

/-- What comes of a request for a new program when the text is another one. -/
theorem reload_judged (h : registry.table.AtRest)
    (hjudges : around.backend.Judges P around.options.validate verdict)
    (hdevice : P registry.thread.device) {entry : Entry}
    (hslot : registry.table.slot? name = some (.ready entry)) {fresh : Source}
    (hload : around.loader.load entry.source.name = .ok fresh)
    (htext : fresh.text ≠ entry.source.text) :
    (reload around .outside name registry).1 =
        (review around verdict entry.source).map (fun _ => ()) ∧
      Settles P around verdict name registry (reload around .outside name registry).2 := by
  have hreview := review_of_text_ne verdict hload htext
  have hprepare := prepare_of_text_ne name hload htext
  -- A failure leaves the entry as it was, wherever it comes from.
  have huntouched : ∀ {thread : Thread σ} {error : RegistryError}, P thread.device →
      registry.thread.made ≤ thread.made → review around verdict entry.source = .error error →
      Settles P around verdict name registry (sweep { registry with thread }) := by
    intro thread error hkept hmade hrefused
    refine ⟨?_, ?_, ?_⟩
    · rw [slot?_sweep, hslot]
      exact .untouched (by simp [hrefused])
    · rw [device_sweep]
      exact hkept
    · rw [made_sweep]
      exact hmade
  -- The text may be malformed, which is known before anything is built.
  rcases hsplit : Bundle.split around.options.split fresh.name fresh.text with error | bundle
  all_goals
    rw [hsplit] at hreview hprepare
    simp only [] at hreview hprepare
    rcases reload_cases h around name with ⟨hnone, -⟩ |
      ⟨found, hfound, ⟨failure, hfailure, hreload⟩ | ⟨prepared, hprepared, hreload⟩⟩
    · exact absurd hslot (hnone entry)
    all_goals obtain rfl : entry = found := by simpa [hslot] using hfound
  · obtain rfl := Except.error.inj (hprepare.symm.trans hfailure)
    rw [hreload, hreview]
    exact ⟨rfl, huntouched hdevice (Nat.le_refl _) hreview⟩
  · exact nomatch hprepare.symm.trans hprepared
  · exact nomatch hprepare.symm.trans hfailure
  -- It is built, and the answer is the verdict.
  · obtain rfl := Except.ok.inj (hprepare.symm.trans hprepared)
    obtain ⟨hkept, hbuilt⟩ := builtNext_judged hjudges hdevice
      (⟨fresh.succeeding entry.source, bundle⟩ : Prepared)
    simp only [] at hreload hbuilt
    rcases hverdict : verdict bundle with error | _
    all_goals
      rw [hverdict] at hreview hbuilt
      obtain ⟨hanswer, hmade⟩ := hbuilt
      simp only [hanswer] at hreload
      rw [hreload]
    · exact ⟨by rw [hreview]; rfl, huntouched hkept hmade.ge hreview⟩
    · refine ⟨by rw [hreview]; rfl, ?_, ?_, ?_⟩
      · have hrenewed : ({ registry.table.set name (.ready { entry with
              source := fresh.succeeding entry.source
              program := ⟨registry.thread.made⟩ }) with
            retired := registry.table.retired ++ [entry.program] } : Slots).slot? name = _ :=
          (Slots.slot?_set _ name _ name).trans (if_pos rfl)
        rw [slot?_sweep, hslot, hrenewed]
        exact .renewed hreview (Nat.le_refl _)
      · rw [device_sweep]
        exact hkept
      · rw [made_sweep]
        exact (Nat.le_succ _).trans hmade.ge

/-- A failure that the text of a ready name comes to is reported. -/
theorem worthReporting_review (name : Text) (source : Source) :
    worthReporting name ((review around verdict source).map fun _ => ()) =
      (reportOn around verdict (name, .ready source)).toList := by
  -- The one failure that is not reported is that the name is gone, and no text comes to that.
  have hne : ∀ other, review around verdict source ≠ .error (.notLoaded other) := by
    intro other
    rw [review]
    split
    · simp
    · split
      · simp
      · split
        · simp
        · split <;> simp
  rw [reportOn]
  rcases hreview : review around verdict source with error | fresh
  · cases error with
    | notLoaded other => exact absurd hreview (hne other)
    | _ => rfl
  · rfl

/-- What is done about one name, and the report on it, are what its text comes to. -/
theorem lookAfter_judged (h : registry.table.AtRest)
    (hjudges : around.backend.Judges P around.options.validate verdict)
    (hdevice : P registry.thread.device) {candidate : Slots.Candidate}
    (hoffers : registry.table.Offers name candidate) :
    (lookAfter around .outside name candidate registry).1 =
        (reportOn around verdict (name, candidate)).toList ∧
      Settles P around verdict name registry
        (lookAfter around .outside name candidate registry).2 := by
  rcases candidate with source | source
  -- The name is ready.
  · obtain ⟨entry, hslot, rfl⟩ := hoffers
    have huntouched : (∀ fresh, review around verdict entry.source ≠ .ok (some fresh)) →
        Settles P around verdict name registry registry := fun hreview =>
      ⟨by rw [hslot]; exact .untouched hreview, hdevice, Nat.le_refl _⟩
    rw [lookAfter, changeOf, refresh_eq, reportOn]
    rcases hload : around.loader.load entry.source.name with error | fresh
    · have hreview : review around verdict entry.source = .error (.load error) := by
        rw [review, hload]
      rw [hreview]
      exact ⟨rfl, huntouched (by simp [hreview])⟩
    · by_cases htext : fresh.text = entry.source.text
      · have hreview : review around verdict entry.source = .ok none := by
          rw [review, hload]
          exact if_pos htext
        simp only [Loader.change, Source.sameContent, htext, decide_true, if_pos, hreview]
        exact ⟨rfl, huntouched (by simp [hreview])⟩
      -- There is another text, so a new program is asked for.
      · obtain ⟨hanswer, hsettles⟩ := reload_judged h hjudges hdevice hslot hload htext
        have hchange : (Loader.change entry.source fresh).isSome := by
          simp [Loader.change, Source.sameContent, htext]
        obtain ⟨next, hnext⟩ := Option.isSome_iff_exists.mp hchange
        simp only [hnext]
        rw [hanswer, worthReporting_review, reportOn]
        exact ⟨rfl, hsettles⟩
  -- It has failed, and nothing is built in any case.
  · obtain ⟨error, hslot⟩ := hoffers
    have hunchanged : changeOf around.loader name (.failed source) ≠ .forget →
        Settles P around verdict name registry registry := fun hchange =>
      ⟨by rw [hslot]; exact .remembered (mt changeOf_failed_iff.mpr hchange), hdevice,
        Nat.le_refl _⟩
    rw [lookAfter, reportOn]
    rcases changeOf_failed around.loader name source with hchange | hchange
    · have hnone : (registry.table.clearFailed name).2.slot? name = none := by
        simp [Slots.clearFailed, hslot, Slots.slot?_erase]
      rw [hchange]
      refine ⟨rfl, ?_, hdevice, Nat.le_refl _⟩
      rw [hslot, hnone]
      exact .forgotten (changeOf_failed_iff.mp hchange)
    · rw [hchange]
      exact ⟨rfl, hunchanged (by simp [hchange])⟩

/-! ### Many names

The induction is on the names in the order in which they come. A name occurs in it once, so its
state is the one from before the pass when its turn comes, and it stays what it is then. -/

/-- **What becomes of the names that are looked after, and the reports, are what their texts come
to**, in whatever order it is done. -/
theorem judged_reloadChangedOf {loaders : Loader Id → Prop}
    (h : Reachable around.backend around.options loaders registry) (hloader : loaders around.loader)
    (hjudges : around.backend.Judges P around.options.validate verdict)
    (hdevice : P registry.thread.device) {order : List (Text × Slots.Candidate)}
    (hnodup : (order.map Prod.fst).Nodup)
    (hoffers : ∀ pair ∈ order, registry.table.Offers pair.1 pair.2) :
    (reloadChangedOf around .outside order registry).1 = order.filterMap (reportOn around verdict) ∧
      P (reloadChangedOf around .outside order registry).2.thread.device ∧
      (∀ name ∈ order.map Prod.fst,
        Renews around verdict registry.thread.made name (registry.table.slot? name)
          ((reloadChangedOf around .outside order registry).2.table.slot? name)) ∧
      ∀ name ∉ order.map Prod.fst,
        (reloadChangedOf around .outside order registry).2.table.slot? name =
          registry.table.slot? name := by
  induction order generalizing registry with
  | nil => exact ⟨rfl, hdevice, (fun _ hmem => nomatch hmem), fun _ _ => rfl⟩
  | cons pair rest ih =>
    obtain ⟨name, candidate⟩ := pair
    obtain ⟨hname, hrest⟩ := List.nodup_cons.mp hnodup
    obtain ⟨hreport, hsettles⟩ := lookAfter_judged h.atRest hjudges hdevice
      (hoffers (name, candidate) List.mem_cons_self)
    let middle := (lookAfter around .outside name candidate registry).2
    -- What is done about the first name is not seen at the others, so these are as they were.
    have hsame : ∀ other ≠ name, middle.table.slot? other = registry.table.slot? other :=
      fun other hother => slot?_lookAfter_of_ne h.atRest around candidate hother
    have hne : ∀ other ∈ rest.map Prod.fst, other ≠ name := fun other hmem heq => hname (heq ▸ hmem)
    obtain ⟨hreports, hkept, hrenews, hothers⟩ :=
      ih (h.serves (serves_lookAfter around hloader name candidate registry)) hsettles.device hrest
        fun pair hpair => (hoffers pair (List.mem_cons_of_mem _ hpair)).congr
          (hsame pair.1 (hne pair.1 (List.mem_map_of_mem hpair)))
    -- The first name settles now and is left alone by the rest.
    rw [reloadChangedOf_cons]
    refine ⟨?_, hkept, fun other hother => ?_, fun other hother => ?_⟩
    · rw [hreport, hreports, List.filterMap_cons]
      cases reportOn around verdict (name, candidate) <;> rfl
    · rcases List.mem_cons.mp hother with rfl | hmem
      · rw [hothers other hname]
        exact hsettles.renews
      · rw [← hsame other (hne other hmem)]
        exact (hrenews other hmem).mono hsettles.made
    · obtain ⟨hfirst, hmem⟩ := not_or.mp (mt List.mem_cons.mpr hother)
      exact (hothers other hmem).trans (hsame other hfirst)

/-! ### All names

A pass looks after the names that are ready or have failed when it begins, each once. What is said
of these is said of all names now, since nothing happens to the others. -/

/-- A snapshot of the present text has nothing new to tell. -/
theorem review_fresh (hloader : around.loader.Honest) {source fresh : Source}
    (h : review around verdict source = .ok (some fresh)) :
    review around verdict fresh = .ok none := by
  rw [review] at h
  split at h
  · exact nomatch h
  · next loaded hload =>
    split at h
    · exact nomatch h
    · split at h
      · exact nomatch h
      · split at h
        · exact nomatch h
        -- The loader gives the same text again, and it is the one of the new snapshot.
        · obtain rfl : loaded.succeeding source = fresh := by simpa using h
          have hagain : around.loader.load (loaded.succeeding source).name = .ok loaded :=
            (congrArg around.loader.load (hloader _ _ hload).1).trans hload
          rw [review, hagain]
          exact if_pos rfl

/-- Nothing is left to be done about a name that was looked after. -/
theorem Renews.done (hloader : around.loader.Honest) {made : Nat} {slot slot' : Option Slot}
    (h : Renews around verdict made name slot slot') :
    (∀ entry, slot' = some (.ready entry) →
        ∀ fresh, review around verdict entry.source ≠ .ok (some fresh)) ∧
      ∀ error source, slot' = some (.failed error source) →
        ¬HasOtherText around.loader name source := by
  cases h with
  | unloaded | forgotten _ => simp
  | untouched hreview =>
    -- The old snapshot is kept, for which there was nothing to do.
    refine ⟨fun entry hentry => ?_, by simp⟩
    obtain rfl := Slot.ready.inj (Option.some.inj hentry)
    exact hreview
  | renewed hreview _ =>
    -- The new one is of the present text.
    refine ⟨fun entry hentry => ?_, by simp⟩
    obtain rfl := Slot.ready.inj (Option.some.inj hentry)
    simp [review_fresh hloader hreview]
  | remembered htext =>
    refine ⟨by simp, fun error source hfailed => ?_⟩
    obtain ⟨-, rfl⟩ := Slot.failed.inj (Option.some.inj hfailed)
    exact htext

/-- A name that was looked after stays as it is when it is looked after again. -/
theorem Renews.settled (hloader : around.loader.Honest) {made more : Nat}
    {slot slot' slot'' : Option Slot} (h : Renews around verdict made name slot slot')
    (h' : Renews around verdict more name slot' slot'') : slot'' = slot' := by
  obtain ⟨hready, hfailed⟩ := h.done hloader
  cases h' with
  | unloaded | untouched _ | remembered _ => rfl
  | renewed hreview _ => exact absurd hreview (hready _ rfl _)
  | forgotten htext => exact absurd htext (hfailed _ _ rfl)

/-- A name fails as it did before when it is looked after again. -/
theorem Renews.error_iff (hloader : around.loader.Honest) {made : Nat} {slot slot' : Option Slot}
    (h : Renews around verdict made name slot slot') (error : RegistryError) :
    (∃ entry, slot' = some (.ready entry) ∧ review around verdict entry.source = .error error) ↔
      ∃ entry, slot = some (.ready entry) ∧ review around verdict entry.source = .error error := by
  cases h with
  | unloaded | untouched _ | remembered _ => rfl
  | forgotten _ => simp
  | renewed hreview _ =>
    have hfresh := review_fresh hloader hreview
    simp [hreview, hfresh]

/-- The names of the reports are among those that are looked after. -/
theorem sublist_reports (order : List (Text × Slots.Candidate)) :
    ((order.filterMap (reportOn around verdict)).map Prod.fst).Sublist (order.map Prod.fst) := by
  induction order with
  | nil => exact List.Sublist.refl _
  | cons pair rest ih =>
    obtain ⟨name, source | source⟩ := pair
    · rw [List.filterMap_cons, reportOn]
      rcases review around verdict source with error | fresh
      · exact ih.cons_cons name
      · exact ih.cons name
    · exact ih.cons name

theorem mem_reports_iff {order : List (Text × Slots.Candidate)} {error : RegistryError} :
    (name, error) ∈ order.filterMap (reportOn around verdict) ↔
      ∃ source, (name, .ready source) ∈ order ∧ review around verdict source = .error error := by
  rw [List.mem_filterMap]
  constructor
  · rintro ⟨⟨other, source | source⟩, hmem, hreport⟩
    · rw [reportOn] at hreport
      rcases hreview : review around verdict source with found | fresh
      · rw [hreview] at hreport
        obtain ⟨rfl, rfl⟩ : other = name ∧ found = error := by simpa using hreport
        exact ⟨source, hmem, hreview⟩
      · simp [hreview] at hreport
    · exact nomatch hreport
  · rintro ⟨source, hmem, hreview⟩
    exact ⟨_, hmem, by rw [reportOn, hreview]⟩

/-- Names without another text take no part. -/
theorem reloadChangedOf_filter (around : Surroundings σ) (caller : Caller) (name : Text)
    {order : List (Text × Slots.Candidate)}
    (h : ∀ candidate, (name, candidate) ∈ order →
      changeOf around.loader name candidate = .nothing) (registry : Registry σ) :
    reloadChangedOf around caller order registry =
      reloadChangedOf around caller (order.filter fun pair => pair.1 ≠ name) registry := by
  induction order generalizing registry with
  | nil => rfl
  | cons pair rest ih =>
    obtain ⟨first, candidate⟩ := pair
    replace ih := ih fun candidate hmem => h candidate (List.mem_cons_of_mem _ hmem)
    -- The name itself is passed over, with nothing changed for the rest.
    by_cases hname : first = name
    · subst hname
      have hnothing : lookAfter around caller first candidate registry = ([], registry) := by
        rw [lookAfter, h candidate List.mem_cons_self]
      rw [List.filter_cons_of_neg (by simp), reloadChangedOf_cons, hnothing, ← ih registry]
      rfl
    · rw [List.filter_cons_of_pos (by simpa using hname), reloadChangedOf_cons,
        reloadChangedOf_cons, ih]

theorem changeOf_ready_eq_nothing {source : Source}
    (h : review around verdict source = .ok none) :
    changeOf around.loader name (.ready source) = .nothing := by
  rw [changeOf, refresh_eq]
  rw [review] at h
  rcases hload : around.loader.load source.name with error | fresh
  · simp [hload] at h
  · by_cases htext : fresh.text = source.text
    · simp [Loader.change, Source.sameContent, htext]
    · rw [hload] at h
      simp only [if_neg htext] at h
      split at h
      · cases h
      · split at h <;> cases h

/-- All names are looked after. -/
theorem judged_reloadChanged {loaders : Loader Id → Prop}
    (h : Reachable around.backend around.options loaders registry) (hloader : loaders around.loader)
    (hjudges : around.backend.Judges P around.options.validate verdict)
    (hdevice : P registry.thread.device) {order : List (Text × Slots.Candidate)}
    (horder : order.Perm registry.table.candidates) :
    P (reloadChangedOf around .outside order registry).2.thread.device ∧
      (∀ name, Renews around verdict registry.thread.made name (registry.table.slot? name)
        ((reloadChangedOf around .outside order registry).2.table.slot? name)) ∧
      ((reloadChangedOf around .outside order registry).1.map Prod.fst).Nodup ∧
      ∀ name error, (name, error) ∈ (reloadChangedOf around .outside order registry).1 ↔
        ∃ entry, registry.table.slot? name = some (.ready entry) ∧
          review around verdict entry.source = .error error := by
  have hnodup : (order.map Prod.fst).Nodup :=
    (horder.map Prod.fst).nodup_iff.mpr h.atRest.keyed.nodup_candidates
  -- The names in question are those that are ready or have failed.
  have hmem : ∀ name candidate, (name, candidate) ∈ order ↔ registry.table.Offers name candidate :=
    fun name candidate => horder.mem_iff.trans h.atRest.mem_candidates_iff
  obtain ⟨hreports, hkept, hrenews, hothers⟩ := judged_reloadChangedOf h hloader hjudges hdevice
    hnodup fun pair hpair => (hmem pair.1 pair.2).mp hpair
  refine ⟨hkept, fun name => ?_, ?_, fun name error => ?_⟩
  · by_cases hname : name ∈ order.map Prod.fst
    · exact hrenews name hname
    -- A name that is not looked after is unloaded, and it stays so.
    · rw [hothers name hname]
      have hunoffered : ∀ candidate, ¬registry.table.Offers name candidate :=
        fun candidate hoffers => hname
          (List.mem_map_of_mem (f := Prod.fst) ((hmem name candidate).mpr hoffers))
      rcases hslot : registry.table.slot? name with _ | (_ | entry | ⟨error, source⟩)
      · exact .unloaded
      · exact absurd hslot (h.atRest.unclaimed name)
      · exact absurd ⟨entry, hslot, rfl⟩ (hunoffered (.ready entry.source))
      · exact absurd ⟨error, hslot⟩ (hunoffered (.failed source))
  · rw [hreports]
    exact (sublist_reports order).nodup hnodup
  · rw [hreports, mem_reports_iff]
    constructor
    · rintro ⟨source, hsource, hreview⟩
      obtain ⟨entry, hslot, rfl⟩ := (hmem name (.ready source)).mp hsource
      exact ⟨entry, hslot, hreview⟩
    · rintro ⟨entry, hslot, hreview⟩
      exact ⟨entry.source, (hmem name _).mpr ⟨entry, hslot, rfl⟩, hreview⟩

/-- What comes of looking after all names, and of doing so once more. -/
structure Converges (around : Surroundings σ) (verdict : Bundle → Except BuildError Unit)
    (order : List (Text × Slots.Candidate)) (registry : Registry σ)
    (reports : List (Text × RegistryError)) (later : Registry σ) : Prop where
  /-- Texts are read behind the names themselves. -/
  named : ∀ name, (∀ entry, registry.table.slot? name = some (.ready entry) →
      entry.source.name = name) ∧
    ∀ error source, registry.table.slot? name = some (.failed error (some source)) →
      source.name = name
  /-- The state of every name is what its text comes to. -/
  renews : ∀ name, Renews around verdict registry.thread.made name (registry.table.slot? name)
    (later.table.slot? name)
  /-- Ready names are live, with programs from their texts. -/
  live : ∀ name entry, later.table.slot? name = some (.ready entry) →
    later.table.entry? entry.handle = some entry ∧
      ∃ bundle, Bundle.split around.options.split entry.source.name entry.source.text = .ok bundle ∧
        later.stages? entry.handle = some bundle.stages
  /-- No name is reported twice. -/
  once : (reports.map Prod.fst).Nodup
  /-- A ready name is reported if its text cannot be read, taken apart or built, and no other name
  is. -/
  reported : ∀ name error, (name, error) ∈ reports ↔
    ∃ entry, registry.table.slot? name = some (.ready entry) ∧
      review around verdict entry.source = .error error
  /-- A ready name without another text takes no part. -/
  apart : ∀ name entry, registry.table.slot? name = some (.ready entry) →
    review around verdict entry.source = .ok none →
      reloadChangedOf around .outside (order.filter fun pair => pair.1 ≠ name) registry =
        (reports, later)
  /-- Nothing is left to be done. -/
  done : ∀ name, (∀ entry, later.table.slot? name = some (.ready entry) →
      ∀ fresh, review around verdict entry.source ≠ .ok (some fresh)) ∧
    ∀ error source, later.table.slot? name = some (.failed error source) →
      ¬HasOtherText around.loader name source
  /-- A second time changes nothing, and the reports are the same. -/
  again : ∀ order' : List (Text × Slots.Candidate), order'.Perm later.table.candidates →
    (∀ name, (reloadChangedOf around .outside order' later).2.table.slot? name =
      later.table.slot? name) ∧
    (reloadChangedOf around .outside order' later).1.Perm reports

/-- **Looking after all names converges**, in whatever order it is done. -/
theorem reloadChanged_converges
    (h : Reachable around.backend around.options Loader.Honest registry)
    (hloader : around.loader.Honest)
    (hjudges : around.backend.Judges P around.options.validate verdict)
    (hdevice : P registry.thread.device) {order : List (Text × Slots.Candidate)}
    (horder : order.Perm registry.table.candidates) :
    Converges around verdict order registry (reloadChangedOf around .outside order registry).1
      (reloadChangedOf around .outside order registry).2 := by
  obtain ⟨hkept, hrenews, honce, hreports⟩ :=
    judged_reloadChanged h hloader hjudges hdevice horder
  have hlater := h.serves (serves_reloadChangedOf around hloader order registry)
  refine ⟨fun name => ⟨fun entry => h.name_of_ready, fun error source => h.name_of_failed⟩, hrenews,
    fun name entry hslot => ?_, honce, hreports, fun name entry hslot hreview => ?_,
    fun name => (hrenews name).done hloader, fun order' horder' => ?_⟩
  -- Entries behind the pass are live, with the stages of their snapshots.
  · have hentry := Slots.entry?_eq_some_iff.mpr
      ⟨name, hlater.atRest.live name entry hslot, hslot, rfl⟩
    exact ⟨hentry, hlater.stages? hentry⟩
  -- A name without another text has nothing done about it, so it may as well be left out.
  · refine (reloadChangedOf_filter around .outside name (fun candidate hmem => ?_) registry).symm
    have hoffers := h.atRest.mem_candidates_iff.mp (horder.mem_iff.mp hmem)
    rcases candidate with source | source
    · obtain ⟨found, hfound, rfl⟩ := hoffers
      obtain rfl : entry = found := by simpa [hslot] using hfound
      exact changeOf_ready_eq_nothing hreview
    · obtain ⟨error, hfailed⟩ := hoffers
      simp [hslot] at hfailed
  -- The same is said of a second pass, and what it says is that names stay as they are.
  · obtain ⟨-, hrenews', honce', hreports'⟩ :=
      judged_reloadChanged hlater hloader hjudges hkept horder'
    refine ⟨fun name => (hrenews name).settled hloader (hrenews' name), ?_⟩
    refine (List.perm_ext_iff_of_nodup honce'.of_map honce.of_map).mpr fun ⟨name, error⟩ => ?_
    rw [hreports', hreports]
    exact (hrenews name).error_iff hloader error

end Registry

/-! ### A front end that looks at stages only

The headless backend links what its front end has read. If that is a function of the stage alone,
the table of varyings has no part in the answer, and what it comes to is computed from the kinds of
the stages. -/

namespace Headless

variable {front : FrontEnd}

theorem modulesOf_eq (hfront : ∀ stage source source', front stage source = front stage source')
    (table table' : Varyings) (blocks : List Block) :
    modulesOf front table blocks = modulesOf front table' blocks := by
  induction blocks generalizing table table' with
  | nil => rfl
  | cons block rest ih =>
    have hmodule : moduleOf front table block = moduleOf front table' block := by
      rw [moduleOf, moduleOf]
      split
      · exact hfront _ _ _
      · rfl
    rw [modulesOf, modulesOf, hmodule, ih (tableBehind table block) (tableBehind table' block)]

/-- What a build comes to, by the stages of its program. -/
def verdictOf : Option (Except BuildError (List Stage)) → Except BuildError Unit
  | none => .error (.thread .unavailable)
  | some (.error error) => .error error
  | some (.ok _) => .ok ()

/-- With such a front end, the answer of the headless backend is a matter of the file. -/
theorem backend_judges (hfront : ∀ stage source source', front stage source = front stage source')
    (validate : Bool) : (backend front).Judges State.Fits validate
      fun bundle => verdictOf (outcome front {} bundle) where
  build bundle := Build.build_keeps (backend_keeps_fits front) (compile_keeps_fits front) bundle
    validate
  deleteProgram program := (backend_keeps_fits front).deleteProgram program
  use program := Job.keeps_change fun _ h => ⟨h.stages, h.programs⟩
  answer bundle thread hfits := by
    have hbuilt : built front bundle validate thread.device = outcome front {} bundle := by
      rw [built_eq_outcome hfits, outcome, outcome, modulesOf_eq hfront thread.device.varyings {}]
    rw [← hbuilt, built, Thread.build, Thread.perform]
    rcases (Build.build (backend front) bundle validate).run thread.device with
      ⟨_ | _ | _, device⟩ <;> rfl

end Headless

namespace Registry

/-- The short file was loaded. -/
def shortLoadedOnce : Registry Headless.State :=
  (acquire (shortAround Bundle.shortFile) .outside ['a'] { thread := { device := {} } }).2

theorem fits_shortLoadedOnce : shortLoadedOnce.thread.device.Fits :=
  ⟨by decide +kernel, by decide +kernel⟩

/-- Its text has got another line. -/
theorem reloadChanged_converges_shortFile :
    let around := shortAround (Bundle.shortFile ++ ['\n'])
    let verdict := fun bundle => Headless.verdictOf (Headless.outcome Build.acceptAll {} bundle)
    review around verdict { name := ['a'], text := Bundle.shortFile } =
        .ok (some { name := ['a'], text := Bundle.shortFile ++ ['\n'], version := 2 }) ∧
      Converges around verdict shortLoadedOnce.table.candidates shortLoadedOnce
        (reloadChangedOf around .outside shortLoadedOnce.table.candidates shortLoadedOnce).1
        (reloadChangedOf around .outside shortLoadedOnce.table.candidates shortLoadedOnce).2 := by
  intro around verdict
  have hnew : Reachable around.backend around.options Loader.Honest
      ({ thread := { device := {} } } : Registry Headless.State) :=
    ⟨{}, .new {}, .refl, rfl, rfl⟩
  have hreachable : Reachable around.backend around.options Loader.Honest shortLoadedOnce :=
    hnew.serves (serves_acquire (shortAround Bundle.shortFile) (Loader.ofTable_honest _) ['a'] _)
  refine ⟨by decide +kernel, reloadChanged_converges hreachable (Loader.ofTable_honest _)
    (Headless.backend_judges (fun _ _ _ => rfl) true) fits_shortLoadedOnce (List.Perm.refl _)⟩

end Registry

end ShaderBundle
