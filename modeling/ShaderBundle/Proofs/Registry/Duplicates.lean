import ShaderBundle.Proofs.Registry.Holdings

/-!
# Builds of one name

A name that is being built for the first time is marked as such in the table, and so is a ready name
for which a new program is being built. Either mark keeps other callers from a second build. But the
mark of a ready name is in its entry, and the entry goes with the last reference to its handle; the
build that was marked then goes on, and the name may be claimed for another one.

## One build at a time

It would be good to know that no name is ever built twice at the same time: builds are expensive,
and of two outcomes one is thrown away. The statement fails for the reason above, and there is no
other. To say that precisely, a build of a name is called awaited if the state of the name tells of
it, and a stray if its handle has lost its name. Every build in flight is one or the other
(`Owned.builds_perm`). At most one is awaited, and a stray comes about only when the last reference
to a handle is given back while a new program for it is under way.

So there are two statements: how many builds there are, for all runs, and that there is at most one,
for runs in which nobody leaves a build behind. A run that does so, with two builds of one name at
its end, follows them.

## Builds and requests

A request in flight stands for its build, from the moment when it has left its mark until its
outcome is recorded. Whether the graphics thread works on it, or its text has turned out to be
malformed so that nothing is built, is not seen here; the bound is one on requests, and a fortiori
on builds.

## Main definitions

* `Traffic.builds` lists the builds of a name that are in flight.
* `Slots.awaited` is the one that the table knows of, `Traffic.strays` lists those whose handle has
  lost its name in the meantime.
* `Traffic.Attended`: sections lead from one state to another, and no handle is given back for the
  last time while a new program for it is being built.

## Main results

* `Traffic.Owned.builds_perm`: a build of a name is awaited or a stray.
* `Traffic.Attended.strays`: there are no strays as long as nobody leaves a build behind.
* `Traffic.reached_builds`: so there is at most one build of a name then, and otherwise this is
  known of each moment.
-/

namespace ShaderBundle

/-- The name that a request builds. -/
def Request.name : Request → Text
  | acquire name | reload name _ => name

/-- The build of a name that its state in the table tells of. -/
def Slots.awaited (table : Slots) (name : Text) : List Request :=
  match table.slot? name with
  | some .loading => [.acquire name]
  | some (.ready entry) => if entry.reloading then [.reload name entry.handle] else []
  | some (.failed _ _) | none => []

theorem Slots.length_awaited_le (table : Slots) (name : Text) :
    (table.awaited name).length ≤ 1 := by
  rw [awaited]
  split
  · exact Nat.le_refl _
  · split <;> simp
  · exact Nat.zero_le _
  · exact Nat.zero_le _

namespace Slots

variable {table : Slots} {name : Text} {handle : Handle} {request : Request}

theorem name_of_mem_awaited (h : request ∈ table.awaited name) : request.name = name := by
  rw [awaited] at h
  split at h
  · rw [List.mem_singleton.mp h, Request.name]
  · split at h
    · rw [List.mem_singleton.mp h, Request.name]
    · simp at h
  · simp at h
  · simp at h

theorem reload_mem_awaited (h : .reload name handle ∈ table.awaited name) :
    ∃ entry, table.slot? name = some (.ready entry) ∧ entry.handle = handle ∧
      entry.reloading = true := by
  rw [awaited] at h
  split at h
  · simp at h
  · next entry hslot =>
    split at h
    · next hreloading =>
      exact ⟨entry, hslot, (by simpa using h : handle = entry.handle).symm, hreloading⟩
    · simp at h
  · simp at h
  · simp at h

end Slots

namespace Traffic

variable {traffic later : Traffic} {name : Text} {handle : Handle} {request : Request}

/-! ### Builds

Requests in flight are a list. What is said of them is said up to their order, by counting. -/

/-- The builds of a name that are in flight. -/
def builds (traffic : Traffic) (name : Text) : List Request :=
  traffic.inFlight.filter fun request => request.name = name

/-- The handle that a request captured has no name any more. -/
def IsStray (traffic : Traffic) (request : Request) : Prop :=
  ∃ handle, request.handle? = some handle ∧ traffic.table.name? handle = none

instance (traffic : Traffic) : DecidablePred traffic.IsStray
  | .acquire _ => .isFalse fun ⟨_, h, _⟩ => nomatch h
  | .reload _ handle => decidable_of_iff (traffic.table.name? handle = none)
    ⟨fun h => ⟨handle, rfl, h⟩, fun ⟨_, hsame, h⟩ => Option.some.inj hsame ▸ h⟩

/-- The builds of a name that nobody waits for any more. -/
def strays (traffic : Traffic) (name : Text) : List Request :=
  (traffic.builds name).filter fun request => traffic.IsStray request

/-- A handle for which a new program is being built is marked, unless it has lost its name. -/
theorem Owned.entry_of_reload (h : traffic.Owned) (hmem : .reload name handle ∈ traffic.inFlight)
    (hlive : traffic.table.name? handle ≠ none) :
    ∃ entry, traffic.table.slot? name = some (.ready entry) ∧ entry.handle = handle ∧
      entry.reloading = true ∧ traffic.reloads handle = [.reload name handle] := by
  obtain ⟨other, hname⟩ := Option.ne_none_iff_exists'.mp hlive
  obtain ⟨entry, hslot, rfl⟩ := (h.live handle other).mp hname
  have hmem' : .reload name entry.handle ∈ traffic.reloads entry.handle :=
    List.mem_filter.mpr ⟨hmem, by simp [Request.handle?]⟩
  have hreloads := h.reloading other entry hslot
  cases hreloading : entry.reloading with
  | false => simp [hreloads, hreloading] at hmem'
  | true =>
    rw [hreloading, if_pos rfl] at hreloads
    obtain rfl : name = other := by simpa [hreloads] using hmem'
    exact ⟨entry, hslot, rfl, hreloading, hreloads⟩

theorem mem_builds : request ∈ traffic.builds name ↔
    request ∈ traffic.inFlight ∧ request.name = name := by
  rw [builds, List.mem_filter, decide_eq_true_iff]

theorem mem_strays : request ∈ traffic.strays name ↔
    request ∈ traffic.builds name ∧ traffic.IsStray request := by
  rw [strays, List.mem_filter, decide_eq_true_iff]

/-- The table tells of every build of a name that is not a stray, and of no other. -/
theorem Owned.count_awaited (h : traffic.Owned) (name : Text) (request : Request) :
    ((traffic.builds name).filter fun request => ¬traffic.IsStray request).count request =
      (traffic.table.awaited name).count request := by
  by_cases hname : request.name = name
  · subst hname
    -- A request for an unloaded name is never a stray. The claim tells of it.
    cases request with
    | acquire name =>
      rw [List.count_filter (by simp [IsStray, Request.handle?]), builds,
        List.count_filter (by simp [Request.name]), h.loading, Request.name, Slots.awaited]
      rcases traffic.table.slot? name with _ | (_ | ⟨_, _, _, _, reloading⟩ | _)
      · rfl
      · simp
      · cases reloading <;> simp
      · simp
    | reload name handle =>
      -- A request for a new program is one if its handle is dead.
      by_cases hlive : traffic.table.name? handle = none
      · have hawaited : .reload name handle ∉ traffic.table.awaited name := fun hmem => by
          obtain ⟨entry, hslot, rfl, -⟩ := Slots.reload_mem_awaited hmem
          simp [(h.live entry.handle name).mpr ⟨entry, hslot, rfl⟩] at hlive
        rw [Request.name, List.count_eq_zero.mpr hawaited, List.count_eq_zero]
        intro hmem
        simpa [IsStray, Request.handle?, hlive] using (List.mem_filter.mp hmem).2
      -- Its handle is live, so the request is counted by the mark of the entry.
      · have hstray : ¬traffic.IsStray (.reload name handle) := by
          simpa [IsStray, Request.handle?] using hlive
        rw [List.count_filter (by simpa using hstray), builds,
          List.count_filter (by simp [Request.name]), Request.name]
        by_cases hmem : .reload name handle ∈ traffic.inFlight
        · obtain ⟨entry, hslot, rfl, hreloading, hreloads⟩ := h.entry_of_reload hmem hlive
          have hone : (traffic.reloads entry.handle).count (.reload name entry.handle) = 1 := by
            simp [hreloads]
          rw [reloads, List.count_filter (by simp [Request.handle?])] at hone
          rw [hone, Slots.awaited, hslot]
          simp [hreloading]
        · rw [List.count_eq_zero.mpr hmem, eq_comm, List.count_eq_zero]
          intro hawaited
          obtain ⟨entry, hslot, rfl, hreloading⟩ := Slots.reload_mem_awaited hawaited
          have hreloads := h.reloading name entry hslot
          rw [hreloading, if_pos rfl] at hreloads
          have hmem' : .reload name entry.handle ∈ traffic.reloads entry.handle := by
            simp [hreloads]
          exact hmem (List.mem_filter.mp hmem').1
  · rw [List.count_eq_zero.mpr, List.count_eq_zero.mpr]
    · exact fun hmem => hname (Slots.name_of_mem_awaited hmem)
    · exact fun hmem => hname (mem_builds.mp (List.mem_filter.mp hmem).1).2

/-- **A build of a name is the one that its state tells of, or it is a stray.** -/
theorem Owned.builds_perm (h : traffic.Owned) (name : Text) :
    (traffic.builds name).Perm (traffic.table.awaited name ++ traffic.strays name) := by
  have hawaited : ((traffic.builds name).filter fun request => ¬traffic.IsStray request).Perm
      (traffic.table.awaited name) := List.perm_iff_count.mpr (h.count_awaited name)
  have hsplit := List.filter_append_perm (fun request => decide (¬traffic.IsStray request))
    (traffic.builds name)
  refine hsplit.symm.trans (hawaited.append (List.Perm.of_eq ?_))
  simp [strays]

/-! ### Builds that are left behind

A request becomes a stray by what somebody else does, after it has begun. So it is asked of every
section whether a handle loses its name by it, and there is one section by which it may. -/

/-- The section takes back the last reference to a handle for which a new program is being built. -/
def Abandons (traffic : Traffic) (step : Section) : Prop :=
  ∃ handle entry, step = .release handle ∧ traffic.table.entry? handle = some entry ∧
    entry.refs ≤ 1 ∧ entry.reloading = true

/-- Sections lead from one state to another, and none of them leaves a build behind. -/
inductive Attended (traffic : Traffic) : Traffic → Prop where
  | refl : Attended traffic traffic
  | step {middle : Traffic} (h : Attended traffic middle) (step : Section)
    (hallows : middle.Allows step) (hattends : ¬middle.Abandons step) :
    Attended traffic (middle.after step)

theorem Attended.reached (h : traffic.Attended later) : traffic.Reached later := by
  induction h with
  | refl => exact .refl
  | step _ step hallows _ ih => exact ih.step step hallows

/-- A handle loses its name with the last reference to it, and in no other way. -/
theorem release_of_name?_eq_none {step : Section} (hname : traffic.table.name? handle = some name)
    (hlost : (traffic.after step).table.name? handle = none) :
    ∃ entry, step = .release handle ∧ traffic.table.entry? handle = some entry ∧
      entry.refs ≤ 1 := by
  rw [Slots.name?] at hname hlost
  -- The names of handles stay, there is one more, or one is gone with its last reference.
  rcases traffic.names_after step with
    hsame | ⟨_, _, _, -, hmore⟩ | ⟨other, entry, hstep, hentry, hrefs, hless⟩
  · rw [hsame] at hlost
    cases hname.symm.trans hlost
  · rw [hmore, List.lookup_append, hname] at hlost
    cases hlost
  · by_cases hsame : handle = other
    · exact ⟨entry, hsame ▸ hstep, hsame ▸ hentry, hrefs⟩
    · rw [hless] at hlost
      have hkept := Slots.lookup_filter_of_ne traffic.table.names hsame
      cases hname.symm.trans (hkept.symm.trans hlost)

/-- A request that begins is no stray. -/
theorem mem_inFlight_after {step : Section} (hmem : request ∈ (traffic.after step).inFlight)
    (h : traffic.Owned) : request ∈ traffic.inFlight ∨ ¬(traffic.after step).IsStray request := by
  cases step with
  | claim name =>
    rcases traffic.after_claim_cases name with hafter | ⟨_, -, hafter⟩ | ⟨-, hafter⟩
    · exact .inl (by rwa [hafter] at hmem)
    · exact .inl (by rwa [hafter] at hmem)
    · rw [hafter] at hmem
      -- A request that begins with a claim has no handle to lose.
      refine (List.mem_append.mp hmem).imp_right fun hnew => ?_
      rw [List.mem_singleton.mp hnew]
      rintro ⟨_, hnone, _⟩
      cases hnone
  | settle name outcome =>
    rcases hsettle : traffic.table.settle name outcome with ⟨_ | _, table⟩ <;>
    · simp only [Traffic.after, hsettle] at hmem
      exact .inl (List.mem_of_mem_erase hmem)
  | release handle =>
    rcases traffic.after_release_cases handle with
      hafter | ⟨_, _, -, -, -, ⟨-, hafter⟩ | ⟨-, hafter⟩⟩ <;>
      exact .inl (by rwa [hafter] at hmem)
  -- One that begins with a mark captures a live handle.
  | mark name =>
    rcases traffic.after_mark_cases name with hafter | ⟨entry, hslot, -, hafter⟩
    · exact .inl (by rwa [hafter] at hmem)
    · rw [hafter] at hmem ⊢
      refine (List.mem_append.mp hmem).imp_right fun hnew => ?_
      rw [List.mem_singleton.mp hnew]
      rintro ⟨handle, hcaptured, hnone⟩
      obtain rfl := Option.some.inj hcaptured
      have hlive := (h.live entry.handle name).mpr ⟨entry, hslot, rfl⟩
      cases hlive.symm.trans hnone
  | replace name handle outcome => exact .inl (List.mem_of_mem_erase hmem)
  | clearFailed name => exact .inl hmem
  | sweep isHeld => exact .inl hmem

/-- As long as nobody leaves a build behind, there are no strays. -/
theorem not_isStray_after (h : traffic.Owned)
    (hnone : ∀ request ∈ traffic.inFlight, ¬traffic.IsStray request) {step : Section}
    (hattends : ¬traffic.Abandons step) (hmem : request ∈ (traffic.after step).inFlight) :
    ¬(traffic.after step).IsStray request := by
  rcases mem_inFlight_after hmem h with hold | hnew
  -- The request was there before, and its handle was live. If it is dead now, the section has taken
  -- back the last reference while the entry was marked.
  · rintro ⟨handle, hcaptured, hlost⟩
    cases request with
    | acquire name => simp [Request.handle?] at hcaptured
    | reload name captured =>
      obtain rfl := Option.some.inj hcaptured
      have hlive : traffic.table.name? captured ≠ none := fun hdead =>
        hnone _ hold ⟨captured, rfl, hdead⟩
      obtain ⟨other, hother⟩ := Option.ne_none_iff_exists'.mp hlive
      obtain ⟨last, hstep, hlast, hrefs⟩ := release_of_name?_eq_none hother hlost
      obtain ⟨entry, hslot, rfl, hreloading, -⟩ := h.entry_of_reload hold hlive
      have hentry : traffic.table.entry? entry.handle = some entry :=
        Slots.entry?_eq_some_iff.mpr
          ⟨name, (h.live entry.handle name).mpr ⟨entry, hslot, rfl⟩, hslot, rfl⟩
      obtain rfl := Option.some.inj (hentry.symm.trans hlast)
      exact hattends ⟨entry.handle, entry, hstep, hentry, hrefs, hreloading⟩
  · exact hnew

theorem Attended.not_isStray (h : Attended {} traffic) (hmem : request ∈ traffic.inFlight) :
    ¬traffic.IsStray request := by
  induction h generalizing request with
  | refl => simp at hmem
  | step hmiddle step _ hattends ih =>
    exact not_isStray_after (owned_empty.reached hmiddle.reached) (fun _ => ih) hattends hmem

/-- As long as nobody leaves a build behind, there are no strays. -/
theorem Attended.strays (h : Attended {} traffic) (name : Text) : traffic.strays name = [] :=
  List.eq_nil_iff_forall_not_mem.mpr fun _ hmem =>
    h.not_isStray (mem_builds.mp (mem_strays.mp hmem).1).1 (mem_strays.mp hmem).2

/-- **A build of a name that is in flight is the one that the table tells of, or its handle has lost
its name.** So there is at most one, unless the last reference to a handle was given back while a
new program for it was being built. -/
theorem reached_builds (h : Reached {} traffic) :
    (∀ name, (traffic.builds name).Perm (traffic.table.awaited name ++ traffic.strays name) ∧
      ((traffic.builds name).length ≤ 1 ↔ traffic.strays name = [] ∨
        traffic.table.awaited name = [] ∧ (traffic.strays name).length = 1)) ∧
      (Attended {} traffic → ∀ name, (traffic.builds name).length ≤ 1) := by
  have howned := owned_empty.reached h
  have hbuilds : ∀ name, (traffic.builds name).length =
      (traffic.table.awaited name).length + (traffic.strays name).length := fun name => by
    rw [(howned.builds_perm name).length_eq, List.length_append]
  refine ⟨fun name => ⟨howned.builds_perm name, ?_⟩, fun hattended name => ?_⟩
  · have hone := traffic.table.length_awaited_le name
    rw [hbuilds, ← List.length_eq_zero_iff, ← List.length_eq_zero_iff]
    omega
  · rw [hbuilds, hattended.strays, List.length_nil, Nat.add_zero]
    exact traffic.table.length_awaited_le name

/-- A new program is being built for a name that was loaded. -/
def renewing : Traffic :=
  [.claim ['a'], .settle ['a'] (.ok (⟨['a'], [], 1, none⟩, ⟨0⟩)), .mark ['a']].foldl after {}

theorem reached_builds_renewing : Reached {} renewing ∧ Attended {} renewing ∧
    renewing.builds ['a'] = [.reload ['a'] ⟨1⟩] ∧ (renewing.builds ['a']).length ≤ 1 := by
  have hattended : Attended {} renewing :=
    ((Attended.refl.step (.claim ['a']) trivial (fun ⟨_, _, h, _⟩ => nomatch h)).step
      (.settle ['a'] (.ok (⟨['a'], [], 1, none⟩, ⟨0⟩))) (by decide)
        (fun ⟨_, _, h, _⟩ => nomatch h)).step (.mark ['a']) trivial (fun ⟨_, _, h, _⟩ => nomatch h)
  exact ⟨hattended.reached, hattended, by decide,
    (reached_builds hattended.reached).2 hattended ['a']⟩

/-- The name was given back for the last time and is loaded again before the new program is there:
there are two builds of it. -/
theorem builds_again : Reached {} ((renewing.after (.release ⟨1⟩)).after (.claim ['a'])) ∧
    ((renewing.after (.release ⟨1⟩)).after (.claim ['a'])).builds ['a'] =
      [.reload ['a'] ⟨1⟩, .acquire ['a']] :=
  ⟨(((((Reached.refl.step (.claim ['a']) trivial).step
      (.settle ['a'] (.ok (⟨['a'], [], 1, none⟩, ⟨0⟩))) (by decide)).step
      (.mark ['a']) trivial).step (.release ⟨1⟩) trivial).step (.claim ['a']) trivial), by decide⟩

end Traffic

end ShaderBundle
