import ShaderBundle.Proofs.Registry.Inheriting
import ShaderBundle.Proofs.Registry.LookingAfter

/-!
# Statuses of names

While no request is in flight, a name is unloaded, ready or failed. Few requests lead from one of
these to another, and each does so for one name or for names whose texts have changed. A failure is
remembered: as long as it is, nobody reads the text again.

## The machine

`Registry.Moves` is the state machine of a single name: what its state may be behind a request,
given the request and its state before. Each case carries what has to be true for it, so that a case
that is missing is a claim. A ready name is unloaded only by giving its last reference back; a
failed one leaves that state only by being cleared, or by another text when names are looked after;
nothing turns a failed name into a ready one directly, and nothing but a request for it loads an
unloaded one. Using programs moves nothing.

## Kinds of failures

Failures of the graphics thread pass and are not remembered, since a second attempt may fare better.
All others are kept with the name, and a request for it is refused with the same failure: the state
of the registry and of its thread is untouched, and neither a loader nor a backend is asked. That
the refusal does not depend on them is said by quantifying over surroundings.

Structural failures are those of the text itself: it is missing, unreadable or malformed. They are
found before anything is handed to the thread.

## Main definitions

* `Registry.Moves`: how a request may change the state of a name, one case for each way.

## Main results

* `Service.Reached.lasting`: no failure of the graphics thread is remembered.
* `Registry.Performs.moves`: requests change states of names in these ways only.
* `Registry.Reachable.statuses`: statuses, failures and the backend, between requests.
-/

namespace ShaderBundle

/-- **No failure of the graphics thread is remembered**, whatever happens. -/
theorem Service.Reached.lasting {σ : Type} {backend : Backend σ} {options : RegistryOptions}
    {loaders : Loader Id → Prop} {device : σ} {service : Service σ}
    (h : Reached backend options loaders (.new device) service) {name : Text}
    {error : RegistryError} {source : Option Source}
    (hslot : service.traffic.table.slot? name = some (.failed error source)) :
    error.isTransient = false := by
  induction h with
  | refl => exact nomatch hslot
  | @step middle later _ hstep ih =>
    -- A section that leaves a failure behind has found it there, or has seen to it that it is no
    -- matter of the thread.
    have hafter : ∀ step : Section,
        (middle.traffic.after step).table.slot? name = some (.failed error source) →
          error.isTransient = false := fun step hfailed =>
      (middle.traffic.failed_after step hfailed).elim ih id
    cases hstep with
    | enter _ _ | acquire _ _ | reload _ _ | conclude _ _ | sweep _ => exact hafter _ hslot
    | build _ _ | obey _ | submit _ | visit _ _ | unuse | hold _ => exact ih hslot

namespace Slots

/-- An outcome is recorded at its name and nowhere else. -/
theorem slot?_settle_of_ne (table : Slots) {name other : Text} {outcome : Outcome}
    (h : other ≠ name) : (table.settle name outcome).2.slot? other = table.slot? other := by
  rcases outcome with failure | ⟨source, program⟩
  · by_cases htransient : failure.error.isTransient
    · rw [settle, if_pos htransient, slot?_erase, if_neg h]
    · rw [settle, if_neg htransient, slot?_set, if_neg h]
  · rw [settle, slot?_set, if_neg h]
    rfl

end Slots

namespace Registry

variable {σ : Type} {around : Surroundings σ} {loaders : Loader Id → Prop}
  {registry later : Registry σ} {operation : Operation} {name : Text}

/-- How a request may change the state of a name. -/
inductive Moves (loader : Loader Id) (operation : Operation) (name : Text) :
    Option Slot → Option Slot → Prop where
  /-- An unloaded name stays so. -/
  | unloaded : Moves loader operation name none none
  /-- It is asked for, and a program is built. -/
  | loaded (hoperation : operation = .acquire name) {entry : Entry} (hrefs : entry.refs = 1) :
    Moves loader operation name none (some (.ready entry))
  /-- It is asked for, and that fails, but not for the graphics thread. -/
  | refused (hoperation : operation = .acquire name) {error : RegistryError}
    {source : Option Source}
    (hlasting : error.isTransient = false) :
    Moves loader operation name none (some (.failed error source))
  /-- A ready name stays so under its handle, unless its last reference is given back. -/
  | ready {entry entry' : Entry} (hhandle : entry'.handle = entry.handle)
    (hrefs : operation = .release entry.handle → 1 < entry.refs) :
    Moves loader operation name (some (.ready entry)) (some (.ready entry'))
  /-- It is. -/
  | released {entry : Entry} (hoperation : operation = .release entry.handle)
    (hrefs : entry.refs = 1) : Moves loader operation name (some (.ready entry)) none
  /-- A failed name stays so for the same cause, unless its failure is cleared or its text is
  another one when names are looked after. -/
  | failed {error : RegistryError} {source : Option Source}
    (hclear : operation ≠ .clearFailed name)
    (htext : operation = .reloadChanged → ¬HasOtherText loader name source) :
    Moves loader operation name (some (.failed error source)) (some (.failed error source))
  /-- Its failure is cleared. -/
  | cleared (hoperation : operation = .clearFailed name) {error : RegistryError}
    {source : Option Source} : Moves loader operation name (some (.failed error source)) none
  /-- Its text is another one. -/
  | forgotten (hoperation : operation = .reloadChanged) {error : RegistryError}
    {source : Option Source} (htext : HasOtherText loader name source) :
    Moves loader operation name (some (.failed error source)) none

/-- The state of a name stays as it is. -/
theorem moves_refl (h : registry.table.AtRest) {loader : Loader Id}
    (hrelease : ∀ entry, registry.table.slot? name = some (.ready entry) →
      operation ≠ .release entry.handle)
    (hclear : operation ≠ .clearFailed name) (hchange : operation ≠ .reloadChanged) :
    Moves loader operation name (registry.table.slot? name) (registry.table.slot? name) := by
  rcases hslot : registry.table.slot? name with _ | (_ | entry | ⟨error, source⟩)
  · exact .unloaded
  · exact absurd hslot (h.unclaimed name)
  · exact .ready rfl fun hoperation => absurd hoperation (hrelease entry hslot)
  · exact .failed hclear fun hoperation => absurd hoperation hchange

/-! ### Requests

Each request is taken by the cases of what can come of it. Names that it is not about stay as they
are, by `moves_refl`. -/

theorem moves_acquire (h : registry.table.AtRest) (around : Surroundings σ) (asked name : Text) :
    Moves around.loader (.acquire asked) name (registry.table.slot? name)
      ((acquire around .outside asked registry).2.table.slot? name) := by
  have hkept : Moves around.loader (.acquire asked) name (registry.table.slot? name)
      (registry.table.slot? name) := moves_refl h (fun _ _ => by simp) (by simp) (by simp)
  -- Whatever the outcome is, it is recorded for the name alone.
  have hsettle : registry.table.slot? asked = none → ∀ outcome,
      Moves around.loader (.acquire asked) name (registry.table.slot? name)
        ((registry.table.settle asked outcome).2.slot? name) := by
    intro hnone outcome
    by_cases hname : name = asked
    · subst hname
      rw [hnone]
      rcases outcome with failure | ⟨source, program⟩
      · by_cases htransient : failure.error.isTransient
        · rw [Slots.settle, if_pos htransient, Slots.slot?_erase, if_pos rfl]
          exact .unloaded
        · rw [Slots.settle, if_neg htransient, Slots.slot?_set, if_pos rfl]
          exact .refused rfl (eq_false_of_ne_true htransient)
      · rw [Slots.settle, Slots.slot?_set, if_pos rfl]
        exact .loaded rfl rfl
    · rw [Slots.slot?_settle_of_ne _ hname]
      exact hkept
  rcases acquire_cases h around asked with ⟨entry, hslot, hacquire⟩ | ⟨error, source, -, hacquire⟩ |
    ⟨hslot, ⟨failure, -, hacquire⟩ | ⟨prepared, -, hacquire⟩⟩
  · rw [hacquire, Slots.slot?_set]
    split
    · next hname =>
      rw [hname, hslot]
      exact .ready rfl (by simp)
    · exact hkept
  · rw [hacquire]
    exact hkept
  · rw [hacquire]
    exact hsettle hslot _
  · rw [hacquire]
    exact hsettle hslot _

theorem moves_release (h : registry.table.AtRest) (loader : Loader Id) (handle : Handle)
    (name : Text) : Moves loader (.release handle) name (registry.table.slot? name)
      ((release handle registry).2.table.slot? name) := by
  have htable : ((release handle registry).2.table.slot? name) =
      (registry.table.release handle).2.slot? name := by
    rw [release]
    rcases registry.table.release_cases handle with ⟨-, hrelease⟩ |
      ⟨_, entry, -, -, -, ⟨-, hrelease⟩ | ⟨-, hrelease⟩⟩
    · rw [hrelease]
    · rw [hrelease]
    · rw [hrelease]
      exact slot?_sweep _ name
  -- Nothing happens to a name whose handle it is not.
  have hkept : (∀ entry, registry.table.slot? name = some (.ready entry) → entry.handle ≠ handle) →
      Moves loader (.release handle) name (registry.table.slot? name)
        (registry.table.slot? name) := fun hne =>
    moves_refl h (fun entry hslot hoperation => hne entry hslot
      (Operation.release.inj hoperation).symm) (by simp) (by simp)
  rw [htable]
  rcases registry.table.release_cases handle with ⟨hentry, hrelease⟩ |
    ⟨other, entry, hother, hslot, rfl, hcases⟩
  · rw [hrelease]
    refine hkept ?_
    rintro entry hslot rfl
    have hlive := Slots.entry?_eq_some_iff.mpr ⟨name, h.live name entry hslot, hslot, rfl⟩
    rw [hentry] at hlive
    cases hlive
  -- Handles of different names are different, so other names stay.
  · have hother' : name ≠ other → Moves loader (.release entry.handle) name
        (registry.table.slot? name) (registry.table.slot? name) := fun hne => by
      refine hkept fun found hfound heq => hne ?_
      have hlive := h.live name found hfound
      rw [heq, hother] at hlive
      exact (Option.some.inj hlive).symm
    rcases hcases with ⟨hrefs, hrelease⟩ | ⟨hrefs, hrelease⟩
    · rw [hrelease, Slots.slot?_set]
      split
      · next hname =>
        rw [hname, hslot]
        exact .ready rfl fun _ => hrefs
      · next hname => exact hother' hname
    · have herase : (registry.table.release entry.handle).2.slot? name =
          (registry.table.erase other).slot? name := by
        rw [hrelease]
        rfl
      rw [herase, Slots.slot?_erase]
      split
      · next hname =>
        rw [hname, hslot]
        -- The last reference is given back, and there was exactly one.
        exact .released rfl (Nat.le_antisymm hrefs (h.refs other entry hslot))
      · next hname => exact hother' hname

theorem moves_reload (h : registry.table.AtRest) (around : Surroundings σ) (asked name : Text) :
    Moves around.loader (.reload asked) name (registry.table.slot? name)
      ((reload around .outside asked registry).2.table.slot? name) := by
  have hkept : Moves around.loader (.reload asked) name (registry.table.slot? name)
      (registry.table.slot? name) := moves_refl h (fun _ _ => by simp) (by simp) (by simp)
  by_cases hname : name = asked
  · subst hname
    rcases slot?_reload h around name with
      ⟨-, hreload⟩ | ⟨entry, entry', hslot, hslot', hhandle, -⟩
    · rw [hreload]
      exact hkept
    · rw [hslot, hslot']
      exact .ready hhandle (by simp)
  · rw [slot?_reload_of_ne h around hname]
    exact hkept

theorem moves_clearFailed (h : registry.table.AtRest) (loader : Loader Id) (asked name : Text) :
    Moves loader (.clearFailed asked) name (registry.table.slot? name)
      ((registry.table.clearFailed asked).2.slot? name) := by
  by_cases hname : name = asked
  · subst hname
    rcases hslot : registry.table.slot? name with _ | (_ | entry | ⟨error, source⟩)
    · simpa [Slots.clearFailed, hslot] using .unloaded
    · exact absurd hslot (h.unclaimed name)
    · simpa [Slots.clearFailed, hslot] using .ready rfl (by simp)
    · simpa [Slots.clearFailed, hslot, Slots.slot?_erase] using .cleared rfl
  · have hsame : (registry.table.clearFailed asked).2.slot? name = registry.table.slot? name := by
      rcases registry.table.clearFailed_cases asked with hclear | ⟨error, source, -, hclear⟩
      · rw [hclear]
      · rw [hclear, Slots.slot?_erase, if_neg hname]
    rw [hsame]
    exact moves_refl h (fun _ _ => by simp) (by simp [Ne.symm hname]) (by simp)

theorem moves_reloadChanged (h : Reachable around.backend around.options loaders registry)
    (hloader : loaders around.loader) {order : List (Text × Slots.Candidate)}
    (horder : order.Perm registry.table.candidates) (name : Text) :
    Moves around.loader .reloadChanged name (registry.table.slot? name)
      ((reloadChangedOf around .outside order registry).2.table.slot? name) := by
  -- A failed name is looked after with the snapshot of its failure, and with no other.
  have hmem : ∀ error source, registry.table.slot? name = some (.failed error source) →
      ∀ candidate, (name, candidate) ∈ order ↔ candidate = .failed source := by
    intro error source hslot candidate
    rw [horder.mem_iff, h.atRest.mem_candidates_iff]
    cases candidate <;> simp [Slots.Offers, hslot, eq_comm]
  have hlooked := lookedAfter_reloadChangedOf h hloader order name
  generalize (reloadChangedOf around .outside order registry).2.table.slot? name = slot at hlooked ⊢
  rcases hslot : registry.table.slot? name with _ | (_ | entry | ⟨error, source⟩)
  all_goals rw [hslot] at hlooked
  · cases hlooked with
    | unloaded => exact .unloaded
  · exact absurd hslot (h.atRest.unclaimed name)
  · cases hlooked with
    | ready hhandle _ => exact .ready hhandle (by simp)
  · cases hlooked with
    | forgotten hcandidate hchange =>
      rw [(hmem error source hslot _).mp hcandidate] at hchange
      exact .forgotten rfl (changeOf_failed_iff.mp hchange)
    | remembered hchange =>
      refine .failed (by simp) fun _ htext => ?_
      exact hchange _ ((hmem error source hslot _).mpr rfl) (changeOf_failed_iff.mpr htext)

theorem table_ask {α : Type} (around : Surroundings σ) (caller : Caller) (handle : Handle)
    (job : Program → Job σ (α × Program)) (registry : Registry σ) :
    (ask around caller handle job registry).2.table = registry.table := by
  unfold ask
  split
  · split <;> rfl
  · split
    · rfl
    · simp only []
      split
      · rfl
      · split <;> rfl

theorem table_location (around : Surroundings σ) (caller : Caller) (handle : Handle)
    (kind : NameKind) (name : Text) (registry : Registry σ) :
    (location around caller handle kind name registry).2.table = registry.table := by
  rcases snd_location around caller handle kind name registry with hsame | ⟨visit, hask⟩
  · rw [hsame]
  · rw [hask, table_ask]

/-- A job that looks after no names is not seen in the table either. -/
theorem slot?_run {α : Type} (around : Surroundings σ)
    {job : Frame → Registry σ → Option α × Registry σ}
    (hjob : ∀ reach registry, Rendered around.backend reach registry (job reach registry).2)
    (registry : Registry σ) (name : Text) :
    (run around .outside job registry).2.table.slot? name = registry.table.slot? name := by
  let started : Registry σ := { registry with
    thread := { registry.thread.drain around.backend with
      running := registry.frame.programs.map Prod.snd } }
  have htable := (hjob registry.frame started).table
  have hrun : (run around .outside job registry).2 = sweep { (job registry.frame started).2 with
      thread := { (job registry.frame started).2.thread with running := [] } } := by
    unfold run
    simp only []
    split <;> rfl
  rw [hrun]
  exact (slot?_sweep _ name).trans (congrArg (Slots.slot? · name) htable)

/-- The use of programs is not seen in the table. -/
theorem Performs.slot?_use (h : Performs around registry .use later) (name : Text) :
    later.table.slot? name = registry.table.slot? name := by
  cases h with
  | uniform handle asked =>
    exact congrArg (Slots.slot? · name) (table_location around .outside handle .uniform ..)
  | attributeLocation handle asked =>
    exact congrArg (Slots.slot? · name) (table_location around .outside handle .attrib ..)
  | uniforms handle => exact congrArg (Slots.slot? · name) (table_ask ..)
  | setUniform handle asked value => exact congrArg (Slots.slot? · name) (table_ask ..)
  | bind handle =>
    unfold Registry.bind
    split <;> rfl
  | unbind => rfl
  | run job hjob => exact slot?_run around hjob registry name
  | rest =>
    exact slot?_sweep { registry with thread := registry.thread.drain around.backend } name

/-- **Requests change states of names in a few ways only.** -/
theorem Performs.moves (h : Reachable around.backend around.options loaders registry)
    (hloader : loaders around.loader) (hperforms : Performs around registry operation later)
    (name : Text) : Moves around.loader operation name (registry.table.slot? name)
      (later.table.slot? name) := by
  have hrest := h.atRest
  cases operation with
  | use =>
    rw [hperforms.slot?_use name]
    exact moves_refl hrest (fun _ _ => by simp) (by simp) (by simp)
  | acquire asked =>
    cases hperforms with
    | acquire => exact moves_acquire hrest around asked name
  | release handle =>
    cases hperforms with
    | release => exact moves_release hrest around.loader handle name
  | reload asked =>
    cases hperforms with
    | reload => exact moves_reload hrest around asked name
  | reloadChanged =>
    cases hperforms with
    | reloadChanged horder => exact moves_reloadChanged h hloader horder name
  | clearFailed asked =>
    cases hperforms with
    | clearFailed => exact moves_clearFailed hrest around.loader asked name

/-! ### Answers

What a caller is told has to agree with what the table says behind it. That is a matter of the
section that records an outcome, and it is read off the way in which outcomes are told apart
there. -/

/-- What a request for an unloaded name is answered with is what becomes of the name: a handle makes
it ready, an error of the graphics thread leaves it unloaded, any other one is remembered. -/
structure Tells (name : Text) (answer : Acquired) (table : Slots) : Prop where
  /-- A handle. -/
  handle : ∀ handle, answer = .ok handle →
    ∃ entry, table.slot? name = some (.ready entry) ∧ entry.handle = handle
  /-- An error of the graphics thread. -/
  transient : ∀ error, answer = .error error → error.isTransient = true → table.slot? name = none
  /-- Any other error. -/
  lasting : ∀ error, answer = .error error → error.isTransient = false →
    ∃ source, table.slot? name = some (.failed error source)

theorem tells_settle (table : Slots) (name : Text) (outcome : Outcome) :
    Tells name (table.settle name outcome).1 (table.settle name outcome).2 := by
  rcases outcome with failure | ⟨source, program⟩
  · by_cases htransient : failure.error.isTransient
    · rw [Slots.settle, if_pos htransient]
      -- A failure of the thread unloads the name.
      refine ⟨by simp, fun error h _ => ?_, fun error h hlasting => ?_⟩
      · rw [Slots.slot?_erase, if_pos rfl]
      · obtain rfl := Except.error.inj h
        exact absurd htransient (by simp [hlasting])
    · rw [Slots.settle, if_neg htransient]
      -- Any other one is kept, and told.
      refine ⟨by simp, fun error h htransient' => ?_, fun error h _ => ?_⟩
      · obtain rfl := Except.error.inj h
        exact absurd htransient' htransient
      · obtain rfl := Except.error.inj h
        exact ⟨failure.source, by rw [Slots.slot?_set, if_pos rfl]⟩
  · refine ⟨fun handle h => ?_, by simp [Slots.settle], by simp [Slots.settle]⟩
    obtain rfl := Except.ok.inj h
    exact ⟨_, by rw [Slots.settle, Slots.slot?_set, if_pos rfl], rfl⟩

/-- A request for a name that has failed is refused at once. -/
theorem acquire_failed (h : registry.table.AtRest) (around : Surroundings σ)
    {error : RegistryError} {source : Option Source}
    (hslot : registry.table.slot? name = some (.failed error source)) :
    acquire around .outside name registry = (.error error, registry) := by
  rcases acquire_cases h around name with ⟨entry, hentry, -⟩ | ⟨found, _, hfound, hacquire⟩ |
    ⟨hnone, -⟩
  · simp [hslot] at hentry
  · obtain ⟨rfl, -⟩ : error = found ∧ _ := by simpa [hslot] using hfound
    exact hacquire
  · simp [hslot] at hnone

theorem acquire_tells (h : registry.table.AtRest) (around : Surroundings σ)
    (hslot : registry.table.slot? name = none) :
    Tells name (acquire around .outside name registry).1
      (acquire around .outside name registry).2.table := by
  rcases acquire_cases h around name with ⟨entry, hentry, -⟩ | ⟨_, _, hfailed, -⟩ |
    ⟨-, ⟨failure, -, hacquire⟩ | ⟨prepared, -, hacquire⟩⟩
  · simp [hslot] at hentry
  · simp [hslot] at hfailed
  · rw [hacquire]
    exact tells_settle _ name _
  · rw [hacquire]
    exact tells_settle _ name _

/-- A request that fails for its text has not come to the graphics thread. -/
theorem thread_acquire (h : registry.table.AtRest) (around : Surroundings σ)
    {error : RegistryError} (herror : (acquire around .outside name registry).1 = .error error)
    (hstructural : error.isStructural) :
    (acquire around .outside name registry).2.thread = registry.thread := by
  rcases acquire_cases h around name with ⟨entry, -, hacquire⟩ | ⟨_, _, -, hacquire⟩ |
    ⟨-, ⟨failure, -, hacquire⟩ | ⟨prepared, -, hacquire⟩⟩
  · rw [hacquire]
  · rw [hacquire]
  · rw [hacquire]
  -- Something was built, so the failure is one of the build and not structural.
  · rw [hacquire] at herror
    rcases hbuilt : (builtNext around prepared registry).1 with cause | program
    · simp only [hbuilt, Scene.outcomeOf, Slots.settle] at herror
      split at herror <;> rw [← Except.error.inj herror] at hstructural <;> cases hstructural
    · simp only [hbuilt, Scene.outcomeOf, Slots.settle] at herror
      cases herror

/-- Such a request for a new program leaves orders at the graphics thread at most, by which programs
that were retired before are destroyed. -/
theorem thread_reload (h : registry.table.AtRest) (around : Surroundings σ)
    {error : RegistryError} (herror : (reload around .outside name registry).1 = .error error)
    (hstructural : error.isStructural) : ∃ refs : List ProgramRef,
      (reload around .outside name registry).2.thread = { registry.thread with
        queue := registry.thread.queue ++ refs.map fun ref => .destroy [ref] } := by
  rcases reload_cases h around name with ⟨-, hreload⟩ | ⟨entry, -, ⟨failure, -, hreload⟩ |
    ⟨prepared, -, hreload⟩⟩
  · rw [hreload]
    exact ⟨[], by simp⟩
  · rw [hreload, sweep_eq]
    exact ⟨_, rfl⟩
  · rw [hreload] at herror
    rcases hbuilt : (builtNext around prepared registry).1 with cause | program
    · simp only [hbuilt] at herror
      rw [← Except.error.inj herror] at hstructural
      exact nomatch hstructural
    · simp only [hbuilt] at herror
      exact nomatch herror

/-- **Statuses between requests.** Whatever has happened, when no request is in flight then no name
is being built, and a failure is remembered that is no matter of the graphics thread; until it is
forgotten, the name is refused with it by any surroundings, with no text read and nothing left at
the graphics thread. A request changes the states of names in a few ways only. One for an unloaded
name is answered with what becomes of the name. And one that fails for its text leaves the backend
alone. -/
theorem Reachable.statuses
    (h : Reachable around.backend around.options (fun _ => True) registry) :
    (∀ name, registry.table.status name ≠ .loading) ∧
      (∀ name error, registry.table.failure? name = some error → error.isTransient = false ∧
        ∀ elsewhere : Surroundings σ,
          acquire elsewhere .outside name registry = (.error error, registry)) ∧
      (∀ operation later, Performs around registry operation later → ∀ name,
        Moves around.loader operation name (registry.table.slot? name) (later.table.slot? name)) ∧
      (∀ name, registry.table.slot? name = none →
        Tells name (acquire around .outside name registry).1
          (acquire around .outside name registry).2.table) ∧
      ∀ name error, error.isStructural →
        ((acquire around .outside name registry).1 = .error error →
          (acquire around .outside name registry).2.thread = registry.thread) ∧
        ((reload around .outside name registry).1 = .error error → ∃ refs : List ProgramRef,
          (reload around .outside name registry).2.thread = { registry.thread with
            queue := registry.thread.queue ++ refs.map fun ref => .destroy [ref] }) := by
  have hrest := h.atRest
  refine ⟨fun name hloading => ?_, fun name error hfailure => ?_,
    fun operation later hperforms name => hperforms.moves h trivial name,
    fun name hslot => acquire_tells hrest around hslot,
    fun name error hstructural => ⟨fun herror => thread_acquire hrest around herror hstructural,
      fun herror => thread_reload hrest around herror hstructural⟩⟩
  · rw [Slots.status] at hloading
    split at hloading
    · exact nomatch hloading
    · next hslot => exact hrest.unclaimed name hslot
    · exact nomatch hloading
    · exact nomatch hloading
  · rw [Slots.failure?] at hfailure
    split at hfailure
    · next found source hslot =>
      obtain rfl := Option.some.inj hfailure
      -- That a failure is no matter of the thread is known from the past of the registry.
      obtain ⟨device, service, hreached, -, rfl⟩ := h
      exact ⟨hreached.lasting hslot, fun elsewhere => acquire_failed hrest elsewhere hslot⟩
    · exact nomatch hfailure

/-- The headless backend, with no texts. -/
def textless : Surroundings Headless.State where
  backend := Headless.backend Build.acceptAll
  loader := Loader.ofTable []

/-- A registry that was asked for a name without a text. -/
def askedInVain : Registry Headless.State :=
  (acquire textless .outside ['a'] { thread := { device := {} } }).2

/-- The name is refused as before, whatever its text is now, until it is cleared. -/
theorem statuses_askedInVain :
    (∀ elsewhere : Surroundings Headless.State, acquire elsewhere .outside ['a'] askedInVain =
      (.error (.load (.notFound ['a'] [])), askedInVain)) ∧
      Moves textless.loader (.clearFailed ['a']) ['a']
        (some (.failed (.load (.notFound ['a'] [])) none)) none := by
  have hnew : Reachable textless.backend textless.options (fun _ => True)
      ({ thread := { device := {} } } : Registry Headless.State) :=
    ⟨{}, .new {}, .refl, rfl, rfl⟩
  have hreachable : Reachable textless.backend textless.options (fun _ => True) askedInVain :=
    hnew.serves (serves_acquire textless trivial ['a'] _)
  obtain ⟨-, hfailures, hmoves, -⟩ := hreachable.statuses
  refine ⟨(hfailures ['a'] _ (by decide +kernel)).2, ?_⟩
  exact hmoves _ _ (.clearFailed ['a']) ['a']

end Registry

end ShaderBundle
