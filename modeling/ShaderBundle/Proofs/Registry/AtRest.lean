import ShaderBundle.Proofs.Registry.Marks
import ShaderBundle.Proofs.Registry.Performed

/-!
# Registries at rest

While no request is in flight, no name is being built and no entry is marked. What comes of a
request then is one of a few things, as long as nobody gets in its way.

## Why this is enough between requests

A claim and a mark are what the first half of a request leaves for others to see, and both are
accounted for by requests in flight (`Traffic.Owned`). So when the last of these has recorded its
outcome, the table has neither. That is the state in which one caller, alone with the registry,
finds it each time: its own requests are over when they return.

## What comes of a request

A request is the composition of its two halves with a build in between, and each half asks about the
state of the name. At rest the answers of the second half are known from the first: nobody can have
unloaded the name or marked it again. So the whole of it comes to a short list of cases, in which
neither claims nor marks appear (`Slots.settle_set`, `Slots.replace_mark`). Later modules take these
cases and do not look at the halves again.

Within a job of the graphics thread requests that would build are refused, and from several callers
at once there is more to say; neither is a matter of this module.

## Main definitions

* `Slots.AtRest`: nothing is being built.
* `Registry.builtNext`: the build behind the orders that wait.

## Main results

* `Registry.Reachable.atRest`: a registry without requests in flight is at rest.
* `Registry.acquire_cases`, `Registry.reload_cases`: what comes of a request.
-/

namespace ShaderBundle

/-- Nothing is being built. -/
structure Slots.AtRest (table : Slots) : Prop where
  /-- No name is in the table twice. -/
  keyed : table.Keyed
  /-- No name is claimed. -/
  unclaimed : ∀ name, table.slot? name ≠ some .loading
  /-- No entry is marked. -/
  unmarked : ∀ name entry, table.slot? name = some (.ready entry) → entry.reloading = false
  /-- Entries have references. -/
  refs : ∀ name entry, table.slot? name = some (.ready entry) → 1 ≤ entry.refs
  /-- The handles of entries are live. -/
  live : ∀ name entry, table.slot? name = some (.ready entry) →
    table.name? entry.handle = some name

namespace Registry

variable {σ : Type} {backend : Backend σ} {options : RegistryOptions} {loaders : Loader Id → Prop}
  {registry later : Registry σ}

/-- **Without requests in flight, nothing is being built.** -/
theorem Reachable.atRest (h : Reachable backend options loaders registry) :
    registry.table.AtRest := by
  obtain ⟨device, service, hreached, herrands, rfl⟩ := h
  have hregular := hreached.regular
  -- Requests in flight are those of errands, and there are none.
  have hnone : service.traffic.inFlight = [] :=
    List.eq_nil_iff_forall_not_mem.mpr fun request hmem => by
    have hcount := hregular.requests request
    have hpos := List.count_pos_iff.mpr hmem
    simp only [herrands, List.map_nil, List.count_nil] at hcount
    omega
  refine ⟨hregular.keyed, fun name hslot => ?_, fun name entry hslot => ?_, fun name entry hslot =>
    (hregular.owned.refs name entry hslot).1, fun name entry hslot =>
      (hregular.owned.live entry.handle name).mpr ⟨entry, hslot, rfl⟩⟩
  -- A claimed name would have a request.
  · have hcount := hregular.owned.loading name
    have hloading : service.traffic.table.slot? name = some .loading := hslot
    rw [hnone, if_pos hloading] at hcount
    exact nomatch hcount
  -- So would a marked entry.
  · have hreloads := hregular.owned.reloading name entry hslot
    rw [Traffic.reloads, hnone, List.filter_nil] at hreloads
    cases hreloading : entry.reloading with
    | false => rfl
    | true => simp [hreloading] at hreloads

/-! ### Requests

The cases follow the state of the name. At rest it is unloaded, ready or failed; that it is being
built is the case that is excluded. -/

/-- The build of a source behind the orders that wait. -/
def builtNext (around : Surroundings σ) (prepared : Prepared) (registry : Registry σ) :
    Except BuildError ProgramRef × Thread σ :=
  (registry.thread.drain around.backend).build around.backend prepared.bundle
    around.options.validate

@[simp] theorem slot?_sweep (registry : Registry σ) (name : Text) :
    registry.sweep.table.slot? name = registry.table.slot? name := by
  rw [sweep_eq]
  rfl

@[simp] theorem device_sweep (registry : Registry σ) :
    registry.sweep.thread.device = registry.thread.device := by
  rw [sweep_eq]
  rfl

@[simp] theorem made_sweep (registry : Registry σ) :
    registry.sweep.thread.made = registry.thread.made := by
  rw [sweep_eq]
  rfl

/-- What comes of a request for a name: it is ready, it has failed before, its text cannot be had,
or a program is built for it. -/
theorem acquire_cases (h : registry.table.AtRest) (around : Surroundings σ) (name : Text) :
    (∃ entry, registry.table.slot? name = some (.ready entry) ∧
        acquire around .outside name registry = (.ok entry.handle, { registry with
          table := registry.table.set name (.ready { entry with refs := entry.refs + 1 }) })) ∨
      (∃ error source, registry.table.slot? name = some (.failed error source) ∧
        acquire around .outside name registry = (.error error, registry)) ∨
      (registry.table.slot? name = none ∧
        ((∃ failure, prepare around name none = .error failure ∧
            acquire around .outside name registry =
              ((registry.table.settle name (.error failure)).1, { registry with
                table := (registry.table.settle name (.error failure)).2 })) ∨
          ∃ prepared, prepare around name none = .ok prepared ∧
            let built := builtNext around prepared registry
            acquire around .outside name registry =
              ((registry.table.settle name (Scene.outcomeOf prepared built.1)).1,
                { table := (registry.table.settle name (Scene.outcomeOf prepared built.1)).2
                  thread := built.2 }))) := by
  rw [acquire, beginAcquire]
  rcases hslot : registry.table.slot? name with _ | (_ | entry | ⟨error, source⟩)
  -- The name is unloaded: it is claimed, and the claim is over when the outcome is recorded.
  · have hclaim : registry.table.claim name = (.claimed, registry.table.set name .loading) := by
      simp [Slots.claim, hslot]
    refine .inr (.inr ⟨rfl, ?_⟩)
    rw [hclaim]
    simp only []
    rcases prepare around name none with failure | prepared
    · refine .inl ⟨failure, rfl, ?_⟩
      simp only [Slots.settle_set]
    · refine .inr ⟨prepared, rfl, ?_⟩
      simp only [buildNow_catchUp, finishAcquire, Slots.settle_set, builtNext]
  · exact absurd hslot (h.unclaimed name)
  · refine .inl ⟨entry, rfl, ?_⟩
    simp [Slots.claim, hslot]
  · refine .inr (.inl ⟨error, source, rfl, ?_⟩)
    simp [Slots.claim, hslot]

/-- What comes of a request for a new program: the name is not ready, its text cannot be had, or a
program is built for it. -/
theorem reload_cases (h : registry.table.AtRest) (around : Surroundings σ) (name : Text) :
    ((∀ entry, registry.table.slot? name ≠ some (.ready entry)) ∧
        reload around .outside name registry = (.error (.notLoaded name), registry)) ∨
      ∃ entry, registry.table.slot? name = some (.ready entry) ∧
        ((∃ failure, prepare around name (some entry.source) = .error failure ∧
            reload around .outside name registry = (.error failure.error, registry.sweep)) ∨
          ∃ prepared, prepare around name (some entry.source) = .ok prepared ∧
            let built := builtNext around prepared registry
            reload around .outside name registry =
              match built.1 with
              | .error error => (.error (.build error), sweep { registry with thread := built.2 })
              | .ok program => (.ok (), sweep {
                  table := { registry.table.set name
                      (.ready { entry with source := prepared.source, program }) with
                    retired := registry.table.retired ++ [entry.program] }
                  thread := built.2 })) := by
  rw [reload, beginReload]
  rcases hslot : registry.table.slot? name with _ | (_ | entry | ⟨error, source⟩)
  · exact .inl ⟨by simp, by simp [Slots.mark, hslot]⟩
  · exact absurd hslot (h.unclaimed name)
  -- The name is ready. Its mark is gone again behind the outcome.
  · have hidle := h.unmarked name entry hslot
    have hmark : registry.table.mark name = (.marked entry.handle entry.source,
        registry.table.set name (.ready { entry with reloading := true })) := by
      simp [Slots.mark, hslot, hidle]
    have hreplace := Slots.replace_mark h.keyed hslot hidle
    refine .inr ⟨entry, rfl, ?_⟩
    rw [hmark]
    simp only []
    rcases prepare around name (some entry.source) with failure | prepared
    · refine .inl ⟨failure, rfl, ?_⟩
      simp only [finishReload, hreplace (.error failure)]
    · refine .inr ⟨prepared, rfl, ?_⟩
      simp only [buildNow_catchUp, finishReload, builtNext]
      rcases ((registry.thread.drain around.backend).build around.backend prepared.bundle
        around.options.validate).1 with error | program
      · simp only [Scene.outcomeOf, hreplace (.error _)]
      · simp only [Scene.outcomeOf, hreplace (.ok _)]
  · exact .inl ⟨by simp, by simp [Slots.mark, hslot]⟩

end Registry

end ShaderBundle
