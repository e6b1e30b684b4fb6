import ShaderBundle.Proofs.Registry.Traffic
import ShaderBundle.Registry.Registry

/-!
# Dead handles

A handle whose last reference was given back is dead. Its name may be loaded again, under another
handle, and a new program for it may still be under way; neither brings it back.

## What has to be excluded

Handles are numbers that callers keep, also when they have given all references back. A table that
used a number twice, or that recorded a late outcome under the name and not under the handle, would
let an old handle reach a program that was loaded for somebody else. Both are excluded by what is
known of handles: the table makes them in order and never again, and a handle is found through its
own entry.

## Late outcomes

A new program may be under way for a handle when its last reference is given back. Its outcome is
recorded behind that, when the name is unloaded, is being built again, or is ready under another
handle. In none of these cases may it become the program of a name. `Traffic.Gone.replace` says what
becomes of it: a program that was built is retired at once, the caller is told that the name is not
loaded, and nothing else changes.

## Main definitions

* `Traffic.Gone`: a handle was made and has no name any more.
* `Registry.Denies`: a registry does not know a handle, whatever it is asked.

## Main results

* `Traffic.Gone.reached`: a handle that is gone stays gone.
* `Traffic.Gone.replace`: a new program that comes too late for it is retired, and that is all.
* `Traffic.reached_owned`: so a handle that was given back as often as it was granted is denied for
  good.
-/

namespace ShaderBundle

namespace Traffic

variable {traffic later : Traffic} {handle : Handle}

/-- The handle was made, and no name has it any more. -/
structure Gone (traffic : Traffic) (handle : Handle) : Prop where
  /-- It was made. -/
  made : handle ∈ traffic.minted
  /-- No name has it. -/
  unnamed : traffic.table.name? handle = none

/-- No section gives a name to a handle that was made before. -/
theorem Gone.after (hgone : traffic.Gone handle) (h : traffic.Owned) (step : Section) :
    (traffic.after step).Gone handle := by
  refine ⟨traffic.minted_subset_after step hgone.made, ?_⟩
  rw [Slots.name?]
  rcases traffic.names_after step with hsame | ⟨_, _, _, -, hmore⟩ | ⟨other, _, -, -, -, hless⟩
  · rw [hsame]
    exact hgone.unnamed
  · have hne : handle ≠ ⟨traffic.table.issued + 1⟩ := fun heq => h.next_notMem (heq ▸ hgone.made)
    rw [hmore]
    exact ((Slots.lookup_concat (h.unmade _ h.next_notMem).1).trans (if_neg hne)).trans
      hgone.unnamed
  · rw [hless]
    by_cases hsame : handle = other
    · rw [hsame]
      exact Slots.lookup_filter_self traffic.table.names
    · exact (Slots.lookup_filter_of_ne traffic.table.names hsame).trans hgone.unnamed

/-- **A handle that is gone stays gone.** -/
theorem Gone.reached (hgone : traffic.Gone handle) (h : traffic.Owned)
    (hreached : traffic.Reached later) : later.Gone handle := by
  induction hreached with
  | refl => exact hgone
  | step hmiddle step _ ih => exact ih.after (h.reached hmiddle) step

/-- A new program for a handle that is gone changes nothing about names and handles. -/
theorem Gone.replace (hgone : traffic.Gone handle) (h : traffic.Owned) (name : Text)
    (outcome : Outcome) : traffic.table.replace name handle outcome =
      (.error (.notLoaded name), { traffic.table with
        retired := traffic.table.retired ++ outcome.toOption.toList.map Prod.snd }) := by
  rcases traffic.table.replace_cases name handle outcome with ⟨entry, hslot, hhandle, -⟩ |
    ⟨-, hreplace⟩
  · have hlive := (h.live handle name).mpr ⟨entry, hslot, hhandle⟩
    simp [hgone.unnamed] at hlive
  · exact hreplace

end Traffic

namespace Registry

variable {σ : Type}

/-- The registry does not know the handle, whoever asks and for whatever. -/
structure Denies (registry : Registry σ) (handle : Handle) : Prop where
  /-- References to it are not taken back. -/
  release : registry.release handle = (.error .unknownHandle, registry)
  /-- It has no uniforms. -/
  uniforms : ∀ around caller,
    registry.uniforms around caller handle = (.error .unknownHandle, registry)
  /-- No uniform of it is written. -/
  setUniform : ∀ around caller name value,
    registry.setUniform around caller handle name value = (.error .unknownHandle, registry)
  /-- No uniform of it is found. -/
  uniform : ∀ around caller name,
    registry.uniform around caller handle name = (none, registry)
  /-- No attribute of it is found. -/
  attributeLocation : ∀ around caller name,
    registry.attributeLocation around caller handle name = (none, registry)
  /-- It is not made current. -/
  bind : registry.bind handle = registry
  /-- It has no stages. -/
  stages? : registry.stages? handle = none
  /-- It has no source. -/
  sourceVersion? : registry.table.sourceVersion? handle = none

theorem denies_of_name?_eq_none {registry : Registry σ} {handle : Handle}
    (h : registry.table.name? handle = none) : registry.Denies handle := by
  have hentry : registry.table.entry? handle = none := by simp [Slots.entry?, h]
  have hprogram : registry.program? handle = none := by simp [program?, hentry]
  -- Questions about programs are refused before the graphics thread comes in, from either kind of
  -- caller.
  have hask : ∀ {α : Type} around caller (job : Program → Job σ (α × Program)),
      registry.ask around caller handle job = (.error .unknownHandle, registry) := by
    intro α around caller job
    cases caller <;> simp [ask, hprogram]
  exact {
    release := by simp [Registry.release, Slots.release, h]
    uniforms := fun _ _ => hask ..
    setUniform := fun _ _ _ _ => hask ..
    uniform := fun _ _ _ => by simp [Registry.uniform, hprogram, hask]
    attributeLocation := fun _ _ _ => by simp [Registry.attributeLocation, hprogram, hask]
    bind := by simp [Registry.bind, hprogram]
    stages? := by simp [Registry.stages?, hprogram]
    sourceVersion? := by simp [Slots.sourceVersion?, hentry] }

end Registry

namespace Traffic

/-- **Whatever callers do, everything is accounted for, and a handle that was given back as often as
it was granted is not known ever again.** A new program that comes too late for such a handle
changes no name and no other handle. -/
theorem reached_owned {traffic : Traffic} (h : Reached {} traffic) : traffic.Owned ∧
    ∀ handle ∈ traffic.minted,
      traffic.returned.count handle = traffic.granted.count handle →
        ∀ later, traffic.Reached later →
          (∀ (σ : Type) (registry : Registry σ), registry.table = later.table →
            registry.Denies handle) ∧
          ∀ name outcome, later.table.replace name handle outcome =
            (.error (.notLoaded name), { later.table with
              retired := later.table.retired ++ outcome.toOption.toList.map Prod.snd }) := by
  have howned := owned_empty.reached h
  refine ⟨howned, fun handle hmade hcount later hlater => ?_⟩
  -- A handle that was given back as often as it was granted is gone by then, and stays so.
  have hgone : traffic.Gone handle := ⟨hmade, (howned.dead handle hmade).mpr hcount⟩
  have hgone' := hgone.reached howned hlater
  refine ⟨fun σ registry htable => Registry.denies_of_name?_eq_none ?_,
    hgone'.replace (howned.reached hlater)⟩
  rw [htable]
  exact hgone'.unnamed

/-- A name was loaded, reloaded and given back before the new program was there, and then loaded
again. -/
def overtaken : Traffic :=
  [.claim ['a'], .settle ['a'] (.ok (⟨['a'], [], 1, none⟩, ⟨0⟩)), .mark ['a'], .release ⟨1⟩,
    .claim ['a'], .settle ['a'] (.ok (⟨['a'], [], 1, none⟩, ⟨1⟩))].foldl after {}

theorem reached_owned_overtaken : Reached {} overtaken ∧ overtaken.Owned ∧
    overtaken.inFlight = [.reload ['a'] ⟨1⟩] ∧
    overtaken.table.name? ⟨2⟩ = some ['a'] ∧
    ∀ registry : Registry Unit, registry.table = overtaken.table → registry.Denies ⟨1⟩ := by
  have hreached : Reached {} overtaken :=
    (((((Reached.refl.step (.claim ['a']) trivial).step
      (.settle ['a'] (.ok (⟨['a'], [], 1, none⟩, ⟨0⟩))) (by decide)).step
      (.mark ['a']) trivial).step (.release ⟨1⟩) trivial).step (.claim ['a']) trivial).step
      (.settle ['a'] (.ok (⟨['a'], [], 1, none⟩, ⟨1⟩))) (by decide)
  obtain ⟨howned, hdead⟩ := reached_owned hreached
  exact ⟨hreached, howned, by decide, by decide,
    (hdead ⟨1⟩ (by decide) (by decide) overtaken .refl).1 Unit⟩

end Traffic

end ShaderBundle
