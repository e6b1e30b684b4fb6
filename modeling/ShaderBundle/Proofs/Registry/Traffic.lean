import ShaderBundle.Proofs.Registry.Slots
import ShaderBundle.Registry.Slots

/-!
# Who owns what in a registry

Any number of callers share the table of a registry, and any sections may come in between the two
halves of a request. What the table says is at all times accounted for by what callers were told:
references by the requests that were granted and given back, names that are being built by the
requests that are in flight.

## Sections

Callers go through the table one at a time, holding its lock; what one of them does while it holds
it is a section. A request consists of two, one that leaves a mark and one that records the outcome,
with the lock given up for the build in between. So the interleavings of any number of callers are
the sequences of sections, and the only thing to be said about their order is that a second half has
a first half (`Traffic.Allows`). Callers that wait for a build of somebody else go through no
section, and the condition variable on which they wait is not modelled.

## The accounts

The table counts references in entries, and marks what is being built. Whether the counts are right
cannot be seen from the table, so it is put together with what callers have: which requests are in
flight, and which handles were granted and returned, in order and with repetitions. `Traffic.Owned`
is the invariant that relates the two. Its fields are about one thing each, entries, claims, marks,
and handles that are live, dead or not made yet; every section changes the states of one name, and
all the accounts of the other names stay.

## Shape of the proof

There are four ways in which a section changes an account: an entry is replaced by one with the same
handle, a name that is not ready changes, a name becomes ready under a new handle, and a name loses
its last reference. For each way there is one lemma with the whole invariant (`Owned.of_entry`,
`Owned.of_idle`, `Owned.of_new`, `Owned.of_last`), and each section is one of them, case by case.

## Main definitions

* `Request` is a request between its halves, `Traffic` the table with the requests in flight and the
  handles that changed hands.
* `Traffic.Reached`: sections lead from one state to another.
* `Traffic.Owned`: everything in the table is accounted for.

## Main results

* `Traffic.Owned.after`: every section keeps that, so it holds in every state that is reached.

## Implementation notes

What a build comes to is not looked into: an outcome may be anything. Handles are numbers without a
bound. The program counts them in a word of 64 bits, with which these agree for as long as the word
does not wrap.
-/

namespace ShaderBundle

/-- A request between its two halves. -/
inductive Request where
  /-- A name is being built for the first time. -/
  | acquire (name : Text)
  /-- A new program is being built for a ready name, which had this handle. -/
  | reload (name : Text) (handle : Handle)
  deriving DecidableEq, Repr

/-- The handle that a request captured. -/
def Request.handle? : Request → Option Handle
  | acquire _ => none
  | reload _ handle => some handle

/-- What callers do with the table while they hold its lock. -/
inductive Section where
  | claim (name : Text)
  | settle (name : Text) (outcome : Outcome)
  | release (handle : Handle)
  | mark (name : Text)
  | replace (name : Text) (handle : Handle) (outcome : Outcome)
  | clearFailed (name : Text)
  | sweep (isHeld : ProgramRef → Bool)

/-- The table of a registry and what callers have of it. -/
structure Traffic where
  /-- The table. -/
  table : Slots := {}
  /-- The requests in flight. -/
  inFlight : List Request := []
  /-- The handles that requests for names were answered with. -/
  granted : List Handle := []
  /-- The handles that references were given back for. -/
  returned : List Handle := []
  /-- The handles that were made, in order. -/
  minted : List Handle := []

namespace Traffic

/-- Second halves belong to requests that are in flight. -/
def Allows (traffic : Traffic) : Section → Prop
  | .settle name _ => .acquire name ∈ traffic.inFlight
  | .replace name handle _ => .reload name handle ∈ traffic.inFlight
  | _ => True

instance (traffic : Traffic) : (step : Section) → Decidable (traffic.Allows step)
  | .settle name _ => inferInstanceAs (Decidable (.acquire name ∈ traffic.inFlight))
  | .replace name handle _ => inferInstanceAs (Decidable (.reload name handle ∈ traffic.inFlight))
  | .claim _ | .release _ | .mark _ | .clearFailed _ | .sweep _ => .isTrue trivial

/-- What a section leads to. -/
def after (traffic : Traffic) : Section → Traffic
  | .claim name =>
    match traffic.table.claim name with
    | (.shared handle, table) => { traffic with table, granted := traffic.granted ++ [handle] }
    | (.claimed, table) => { traffic with table, inFlight := traffic.inFlight ++ [.acquire name] }
    | (_, table) => { traffic with table }
  | .settle name outcome =>
    let rest := { traffic with inFlight := traffic.inFlight.erase (.acquire name) }
    match traffic.table.settle name outcome with
    | (.ok handle, table) => { rest with
        table
        granted := traffic.granted ++ [handle]
        minted := traffic.minted ++ [handle] }
    | (.error _, table) => { rest with table }
  | .release handle =>
    match traffic.table.release handle with
    | (.ok _, table) => { traffic with table, returned := traffic.returned ++ [handle] }
    | (.error _, table) => { traffic with table }
  | .mark name =>
    match traffic.table.mark name with
    | (.marked handle _, table) =>
      { traffic with table, inFlight := traffic.inFlight ++ [.reload name handle] }
    | (_, table) => { traffic with table }
  | .replace name handle outcome => { traffic with
      table := (traffic.table.replace name handle outcome).2
      inFlight := traffic.inFlight.erase (.reload name handle) }
  | .clearFailed name => { traffic with table := (traffic.table.clearFailed name).2 }
  | .sweep isHeld => { traffic with table := (traffic.table.sweep isHeld).2 }

/-- Sections lead from one state to another. -/
inductive Reached (traffic : Traffic) : Traffic → Prop where
  | refl : Reached traffic traffic
  | step {middle : Traffic} (h : Reached traffic middle) (step : Section)
    (hallows : middle.Allows step) : Reached traffic (middle.after step)

/-- The requests in flight that captured a handle. -/
def reloads (traffic : Traffic) (handle : Handle) : List Request :=
  traffic.inFlight.filter fun request => request.handle? = some handle

/-- Everything in the table is accounted for. -/
structure Owned (traffic : Traffic) : Prop where
  /-- A live handle is that of the entry under its name. -/
  live : ∀ handle name, traffic.table.name? handle = some name ↔
    ∃ entry, traffic.table.slot? name = some (.ready entry) ∧ entry.handle = handle
  /-- An entry has a reference for each request that was answered with its handle and for which none
  was given back, and there is one. -/
  refs : ∀ name entry, traffic.table.slot? name = some (.ready entry) → 1 ≤ entry.refs ∧
    entry.refs + traffic.returned.count entry.handle = traffic.granted.count entry.handle
  /-- There is one request for a name that is being built, and none for any other. -/
  loading : ∀ name, traffic.inFlight.count (.acquire name) =
    if traffic.table.slot? name = some .loading then 1 else 0
  /-- There is one request that captured the handle of an entry if that is marked, and none
  otherwise. -/
  reloading : ∀ name entry, traffic.table.slot? name = some (.ready entry) →
    traffic.reloads entry.handle = if entry.reloading then [.reload name entry.handle] else []
  /-- The handles that were made have the numbers from one on, each once. -/
  minted : traffic.minted = (List.range traffic.table.issued).map fun i => ⟨i + 1⟩
  /-- A handle that was made is dead once as many references were given back as there were. -/
  dead : ∀ handle ∈ traffic.minted, traffic.table.name? handle = none ↔
    traffic.returned.count handle = traffic.granted.count handle
  /-- A handle that was not made is nowhere. -/
  unmade : ∀ handle ∉ traffic.minted, traffic.table.name? handle = none ∧
    traffic.granted.count handle = 0 ∧ traffic.returned.count handle = 0 ∧
      traffic.reloads handle = []

variable {traffic later : Traffic} {name : Text} {handle : Handle}

/-! ### What a section leads to

The cases of each section, with the accounts. Whether a request is granted or a reference taken back
is told by the answer to the caller. -/

theorem table_claim (traffic : Traffic) (name : Text) :
    (traffic.after (.claim name)).table = (traffic.table.claim name).2 := by
  rcases hclaim : traffic.table.claim name with ⟨_ | _ | _ | _, table⟩ <;>
    simp [Traffic.after, hclaim]

theorem table_settle (traffic : Traffic) (name : Text) (outcome : Outcome) :
    (traffic.after (.settle name outcome)).table = (traffic.table.settle name outcome).2 := by
  rcases hsettle : traffic.table.settle name outcome with ⟨_ | _, table⟩ <;>
    simp [Traffic.after, hsettle]

theorem table_release (traffic : Traffic) (handle : Handle) :
    (traffic.after (.release handle)).table = (traffic.table.release handle).2 := by
  rcases hrelease : traffic.table.release handle with ⟨_ | _, table⟩ <;>
    simp [Traffic.after, hrelease]

theorem table_mark (traffic : Traffic) (name : Text) :
    (traffic.after (.mark name)).table = (traffic.table.mark name).2 := by
  rcases hmark : traffic.table.mark name with ⟨_ | _ | _, table⟩ <;>
    simp [Traffic.after, hmark]

/-- A claim is passed over, or it adds a reference to an entry, or it begins a request. -/
theorem after_claim_cases (traffic : Traffic) (name : Text) :
    traffic.after (.claim name) = traffic ∨
      (∃ entry, traffic.table.slot? name = some (.ready entry) ∧
        traffic.after (.claim name) =
          { traffic with
            table := traffic.table.set name (.ready { entry with refs := entry.refs + 1 })
            granted := traffic.granted ++ [entry.handle] }) ∨
      (traffic.table.slot? name = none ∧
        traffic.after (.claim name) =
          { traffic with
            table := traffic.table.set name .loading
            inFlight := traffic.inFlight ++ [.acquire name] }) := by
  rcases traffic.table.claim_cases name with ⟨hshared, hclaimed, hsame⟩ | ⟨entry, hslot, hclaim⟩ |
    ⟨hslot, hclaim⟩
  · refine .inl ?_
    rcases hclaim : traffic.table.claim name with ⟨_ | _ | _ | _, table⟩
    case shared handle => exact absurd (congrArg Prod.fst hclaim) (hshared handle)
    case claimed => exact absurd (congrArg Prod.fst hclaim) hclaimed
    all_goals
      -- It is refused or has to wait, and nothing is granted.
      obtain rfl : table = traffic.table := by rw [← hsame, hclaim]
      simp only [after, hclaim]
  · exact .inr (.inl ⟨entry, hslot, by simp only [after, hclaim]⟩)
  · exact .inr (.inr ⟨hslot, by simp only [after, hclaim]⟩)

/-- A reference is refused, or an entry loses one of several, or a name loses the last one. -/
theorem after_release_cases (traffic : Traffic) (handle : Handle) :
    traffic.after (.release handle) = traffic ∨
      ∃ name entry, traffic.table.name? handle = some name ∧
        traffic.table.slot? name = some (.ready entry) ∧ entry.handle = handle ∧
        ((1 < entry.refs ∧ traffic.after (.release handle) =
            { traffic with
              table := traffic.table.set name (.ready { entry with refs := entry.refs - 1 })
              returned := traffic.returned ++ [handle] }) ∨
          (entry.refs ≤ 1 ∧ traffic.after (.release handle) =
            { traffic with
              table := { traffic.table.erase name with
                names := traffic.table.names.filter fun named => named.1 ≠ handle
                retired := traffic.table.retired ++ [entry.program] }
              returned := traffic.returned ++ [handle] })) := by
  rcases traffic.table.release_cases handle with
    ⟨-, hrelease⟩ | ⟨name, entry, hname, hslot, hhandle, ⟨hrefs, hrelease⟩ | ⟨hrefs, hrelease⟩⟩
  · exact .inl (by simp only [after, hrelease])
  · exact .inr ⟨name, entry, hname, hslot, hhandle, .inl ⟨hrefs, by simp only [after, hrelease]⟩⟩
  · exact .inr ⟨name, entry, hname, hslot, hhandle, .inr ⟨hrefs, by simp only [after, hrelease]⟩⟩

/-- A wish for a new program is passed over, or it marks an entry and begins a request. -/
theorem after_mark_cases (traffic : Traffic) (name : Text) :
    traffic.after (.mark name) = traffic ∨
      ∃ entry, traffic.table.slot? name = some (.ready entry) ∧ entry.reloading = false ∧
        traffic.after (.mark name) =
          { traffic with
            table := traffic.table.set name (.ready { entry with reloading := true })
            inFlight := traffic.inFlight ++ [.reload name entry.handle] } := by
  rcases traffic.table.mark_cases name with ⟨hmarked, hsame⟩ | ⟨entry, hslot, hreloading, hmark⟩
  · refine .inl ?_
    rcases hmark : traffic.table.mark name with ⟨_ | _ | _, table⟩
    case marked handle source => exact absurd (congrArg Prod.fst hmark) (hmarked handle source)
    all_goals
      obtain rfl : table = traffic.table := by rw [← hsame, hmark]
      simp only [after, hmark]
  · exact .inr ⟨entry, hslot, hreloading, by simp only [after, hmark]⟩

/-- A handle gets its name when it is made, and it loses it with the last reference. -/
theorem names_after (traffic : Traffic) (step : Section) :
    (traffic.after step).table.names = traffic.table.names ∨
      (∃ name source program, step = .settle name (.ok (source, program)) ∧
        (traffic.after step).table.names =
          traffic.table.names ++ [(⟨traffic.table.issued + 1⟩, name)]) ∨
      ∃ handle entry, step = .release handle ∧ traffic.table.entry? handle = some entry ∧
        entry.refs ≤ 1 ∧ (traffic.after step).table.names =
          traffic.table.names.filter fun named => named.1 ≠ handle := by
  cases step with
  | claim name => exact .inl (by rw [table_claim, Slots.names_claim])
  -- A handle is made for a program, and for nothing else.
  | settle name outcome =>
    rcases outcome with failure | ⟨source, program⟩
    · refine .inl ?_
      rw [table_settle, Slots.settle]
      split <;> rfl
    · exact .inr (.inl ⟨name, source, program, rfl, rfl⟩)
  | release handle =>
    rcases traffic.after_release_cases handle with
      hafter | ⟨name, entry, hname, hslot, rfl, ⟨-, hafter⟩ | ⟨hrefs, hafter⟩⟩
    · exact .inl (by rw [hafter])
    · exact .inl (by rw [hafter, Slots.set])
    · exact .inr (.inr ⟨entry.handle, entry, rfl,
        Slots.entry?_eq_some_iff.mpr ⟨name, hname, hslot, rfl⟩, hrefs, by rw [hafter]⟩)
  | mark name => exact .inl (by rw [table_mark, Slots.names_mark])
  | replace name handle outcome => exact .inl (Slots.names_replace ..)
  | clearFailed name => exact .inl (Slots.names_clearFailed ..)
  | sweep isHeld => exact .inl rfl

/-- Handles that were made stay made. -/
theorem minted_subset_after (traffic : Traffic) (step : Section) :
    traffic.minted ⊆ (traffic.after step).minted := by
  cases step with
  | claim name =>
    rcases hclaim : traffic.table.claim name with ⟨_ | _ | _ | _, table⟩ <;>
      simp [after, hclaim]
  | settle name outcome =>
    rcases hsettle : traffic.table.settle name outcome with ⟨_ | _, table⟩ <;>
      simp [after, hsettle]
  | release handle =>
    rcases hrelease : traffic.table.release handle with ⟨_ | _, table⟩ <;>
      simp [after, hrelease]
  | mark name =>
    rcases hmark : traffic.table.mark name with ⟨_ | _ | _, table⟩ <;>
      simp [after, hmark]
  | replace | clearFailed | sweep => exact List.Subset.refl _

/-- A claim begins a request if the name is new to the table. -/
theorem inFlight_claim (h : (traffic.table.claim name).1 = .claimed) :
    (traffic.after (.claim name)).inFlight = traffic.inFlight ++ [.acquire name] := by
  rcases hclaim : traffic.table.claim name with ⟨_, table⟩
  obtain rfl := (congrArg Prod.fst hclaim).symm.trans h
  simp only [after, hclaim]

theorem inFlight_claim_of_ne (h : (traffic.table.claim name).1 ≠ .claimed) :
    (traffic.after (.claim name)).inFlight = traffic.inFlight := by
  rcases hclaim : traffic.table.claim name with ⟨_ | _ | _ | _, table⟩
  case claimed => exact absurd (congrArg Prod.fst hclaim) h
  all_goals simp only [after, hclaim]

theorem inFlight_release (traffic : Traffic) (handle : Handle) :
    (traffic.after (.release handle)).inFlight = traffic.inFlight := by
  rcases hrelease : traffic.table.release handle with ⟨_ | _, table⟩ <;>
    simp only [after, hrelease]

theorem inFlight_mark {source : Source} (h : (traffic.table.mark name).1 = .marked handle source) :
    (traffic.after (.mark name)).inFlight = traffic.inFlight ++ [.reload name handle] := by
  rcases hmark : traffic.table.mark name with ⟨_, table⟩
  obtain rfl := (congrArg Prod.fst hmark).symm.trans h
  simp only [after, hmark]

/-! ### Handles

Handles are numbered from one on, so a handle was made if its number is not greater than the last
one. -/

theorem Owned.mem_minted_iff (h : traffic.Owned) :
    handle ∈ traffic.minted ↔ 1 ≤ handle.id ∧ handle.id ≤ traffic.table.issued := by
  rw [h.minted, List.mem_map]
  constructor
  · rintro ⟨i, hi, rfl⟩
    exact ⟨Nat.succ_le_succ (Nat.zero_le i), List.mem_range.mp hi⟩
  · rintro ⟨hone, hissued⟩
    refine ⟨handle.id - 1, List.mem_range.mpr (by omega), ?_⟩
    rw [Nat.sub_add_cancel hone]

/-- Entries under different names have different handles. -/
theorem Owned.name_eq (h : traffic.Owned) {other : Text} {entry entry' : Entry}
    (hslot : traffic.table.slot? name = some (.ready entry))
    (hslot' : traffic.table.slot? other = some (.ready entry'))
    (heq : entry.handle = entry'.handle) : name = other := by
  have hname := (h.live entry.handle name).mpr ⟨entry, hslot, rfl⟩
  have hother := (h.live entry.handle other).mpr ⟨entry', hslot', heq.symm⟩
  exact Option.some.inj (hname.symm.trans hother)

theorem Owned.mem_minted (h : traffic.Owned) (hname : traffic.table.name? handle = some name) :
    handle ∈ traffic.minted := by
  by_contra hmade
  simp [(h.unmade handle hmade).1] at hname

/-! ### Changes

The four ways to change an account. What is asked for is what the states, the names of handles and
the lists of the later state are, in terms of the earlier one; no section is mentioned. -/

/-- Behind a change under one name an entry is what that name has now, or it was there before. -/
theorem ready_of_slots {slot : Option Slot} {other : Text} {found : Entry}
    (hslots : ∀ other, later.table.slot? other =
      if other = name then slot else traffic.table.slot? other)
    (hfound : later.table.slot? other = some (.ready found)) :
    (other = name ∧ slot = some (.ready found)) ∨
      (other ≠ name ∧ traffic.table.slot? other = some (.ready found)) := by
  rw [hslots] at hfound
  split at hfound
  case isTrue hother => exact .inl ⟨hother, hfound⟩
  case isFalse hother => exact .inr ⟨hother, hfound⟩

/-- The entry under a name is another one with the same handle, and nothing changes for other
handles. -/
theorem Owned.of_entry (h : traffic.Owned) {entry : Entry} (entry' : Entry)
    (hslot : traffic.table.slot? name = some (.ready entry))
    (hhandle : entry'.handle = entry.handle)
    (hslots : ∀ other, later.table.slot? other =
      if other = name then some (.ready entry') else traffic.table.slot? other)
    (hnames : later.table.name? = traffic.table.name?)
    (hissued : later.table.issued = traffic.table.issued) (hminted : later.minted = traffic.minted)
    (hrefs : 1 ≤ entry'.refs ∧
      entry'.refs + later.returned.count entry.handle = later.granted.count entry.handle)
    (hreloads : later.reloads entry.handle =
      if entry'.reloading then [.reload name entry.handle] else [])
    (hothers : ∀ other ≠ entry.handle, later.granted.count other = traffic.granted.count other ∧
      later.returned.count other = traffic.returned.count other ∧
        later.reloads other = traffic.reloads other)
    (hacquires : ∀ other, later.inFlight.count (.acquire other) =
      traffic.inFlight.count (.acquire other)) : later.Owned := by
  have hlive := (h.live entry.handle name).mpr ⟨entry, hslot, rfl⟩
  -- Entries are the new one, or old ones with other handles.
  have hentry : ∀ other found, later.table.slot? other = some (.ready found) →
      (other = name ∧ found = entry') ∨ (found.handle ≠ entry.handle ∧
        traffic.table.slot? other = some (.ready found)) := by
    intro other found hfound
    rcases ready_of_slots hslots hfound with ⟨hother, hnew⟩ | ⟨hother, hold⟩
    · exact .inl ⟨hother, by simpa using hnew.symm⟩
    · exact .inr ⟨fun heq => hother (h.name_eq hold hslot heq), hold⟩
  constructor
  case live =>
    intro handle other
    rw [hnames, h.live, hslots]
    by_cases hother : other = name
    · subst hother
      simp [hslot, hhandle]
    · rw [if_neg hother]
  case refs =>
    intro other found hfound
    rcases hentry other found hfound with ⟨-, rfl⟩ | ⟨hne, hold⟩
    · rwa [hhandle]
    · obtain ⟨hgranted, hreturned, -⟩ := hothers _ hne
      rw [hgranted, hreturned]
      exact h.refs other found hold
  case loading =>
    intro other
    rw [hacquires, h.loading, hslots]
    by_cases hother : other = name
    · simp [hother, hslot]
    · rw [if_neg hother]
  case reloading =>
    intro other found hfound
    rcases hentry other found hfound with ⟨rfl, rfl⟩ | ⟨hne, hold⟩
    · rwa [hhandle]
    · rw [(hothers _ hne).2.2]
      exact h.reloading other found hold
  case minted => rw [hminted, hissued, h.minted]
  case dead =>
    intro handle hmade
    rw [hminted] at hmade
    rw [hnames]
    -- The handle is live with at least one reference, so the counts differ.
    by_cases hsame : handle = entry.handle
    · subst hsame
      rw [hlive]
      have := hrefs
      simp only [reduceCtorEq, false_iff]
      omega
    · obtain ⟨hgranted, hreturned, -⟩ := hothers _ hsame
      rw [hgranted, hreturned]
      exact h.dead handle hmade
  case unmade =>
    intro handle hmade
    rw [hminted] at hmade
    obtain ⟨hgranted, hreturned, hreloads'⟩ := hothers handle fun heq =>
      hmade (heq ▸ h.mem_minted hlive)
    rw [hnames, hgranted, hreturned, hreloads']
    exact h.unmade handle hmade

/-- A name that is not ready gets another state in which it is not ready either. -/
theorem Owned.of_idle (h : traffic.Owned) (slot : Option Slot)
    (hidle : ∀ entry, traffic.table.slot? name ≠ some (.ready entry))
    (hidle' : ∀ entry, slot ≠ some (.ready entry))
    (hslots : ∀ other, later.table.slot? other =
      if other = name then slot else traffic.table.slot? other)
    (hnames : later.table.name? = traffic.table.name?)
    (hissued : later.table.issued = traffic.table.issued) (hminted : later.minted = traffic.minted)
    (hgranted : later.granted = traffic.granted) (hreturned : later.returned = traffic.returned)
    (hreloads : ∀ handle, later.reloads handle = traffic.reloads handle)
    (hacquires : ∀ other, later.inFlight.count (.acquire other) =
      if other = name then if slot = some .loading then 1 else 0
      else traffic.inFlight.count (.acquire other)) : later.Owned := by
  -- No entry comes or goes, so only claims are counted anew.
  have hentry : ∀ other found, later.table.slot? other = some (.ready found) ↔
      traffic.table.slot? other = some (.ready found) := by
    intro other found
    rw [hslots]
    by_cases hother : other = name
    · rw [if_pos hother, hother]
      exact ⟨fun heq => absurd heq (hidle' found), fun heq => absurd heq (hidle found)⟩
    · rw [if_neg hother]
  constructor
  case live => simp only [hnames, h.live, hentry, implies_true]
  case refs =>
    intro other found hfound
    rw [hgranted, hreturned]
    exact h.refs other found ((hentry other found).mp hfound)
  case loading =>
    intro other
    rw [hacquires, hslots]
    by_cases hother : other = name
    · rw [if_pos hother, if_pos hother]
    · rw [if_neg hother, if_neg hother]
      exact h.loading other
  case reloading =>
    intro other found hfound
    rw [hreloads]
    exact h.reloading other found ((hentry other found).mp hfound)
  case minted => rw [hminted, hissued, h.minted]
  case dead =>
    rw [hminted, hnames, hgranted, hreturned]
    exact h.dead
  case unmade =>
    simp only [hminted, hnames, hgranted, hreturned, hreloads]
    exact h.unmade

/-- The next handle was not made yet. -/
theorem Owned.next_notMem (h : traffic.Owned) : ⟨traffic.table.issued + 1⟩ ∉ traffic.minted :=
  fun hmem => Nat.not_succ_le_self _ (h.mem_minted_iff.mp hmem).2

/-- A name that was being built is ready under a new handle. -/
theorem Owned.of_new (h : traffic.Owned) (entry : Entry)
    (hslot : traffic.table.slot? name = some .loading)
    (hhandle : entry.handle = ⟨traffic.table.issued + 1⟩) (hrefs : entry.refs = 1)
    (hreloading : entry.reloading = false)
    (hslots : ∀ other, later.table.slot? other =
      if other = name then some (.ready entry) else traffic.table.slot? other)
    (hnames : ∀ handle, later.table.name? handle =
      if handle = entry.handle then some name else traffic.table.name? handle)
    (hissued : later.table.issued = traffic.table.issued + 1)
    (hminted : later.minted = traffic.minted ++ [entry.handle])
    (hgranted : later.granted = traffic.granted ++ [entry.handle])
    (hreturned : later.returned = traffic.returned)
    (hreloads : ∀ handle, later.reloads handle = traffic.reloads handle)
    (hacquires : ∀ other, later.inFlight.count (.acquire other) =
      if other = name then 0 else traffic.inFlight.count (.acquire other)) : later.Owned := by
  -- The handle was not made before, so there are no accounts for it.
  have hfresh : entry.handle ∉ traffic.minted := hhandle ▸ h.next_notMem
  obtain ⟨hnone, hnogrant, hnoreturn, hnoreload⟩ := h.unmade _ hfresh
  have hentry : ∀ other found, later.table.slot? other = some (.ready found) →
      (other = name ∧ found = entry) ∨ (found.handle ≠ entry.handle ∧
        traffic.table.slot? other = some (.ready found)) := by
    intro other found hfound
    rcases ready_of_slots hslots hfound with ⟨hother, hnew⟩ | ⟨-, hold⟩
    · exact .inl ⟨hother, by simpa using hnew.symm⟩
    · refine .inr ⟨fun heq => ?_, hold⟩
      have hlive := (h.live found.handle other).mpr ⟨found, hold, rfl⟩
      rw [heq, hnone] at hlive
      cases hlive
  -- It is granted once, and the counts of the others stay.
  have hcount : ∀ handle ≠ entry.handle,
      later.granted.count handle = traffic.granted.count handle := by
    intro handle hne
    simp [hgranted, List.count_append, Ne.symm hne]
  constructor
  case live =>
    intro handle other
    rw [hnames]
    constructor
    · intro hname
      split at hname
      case isTrue heq =>
        exact ⟨entry, by rw [hslots, if_pos (Option.some.inj hname).symm], heq.symm⟩
      case isFalse =>
        obtain ⟨found, hfound, hhandle'⟩ := (h.live handle other).mp hname
        have hother : other ≠ name := by
          rintro rfl
          cases hslot.symm.trans hfound
        exact ⟨found, by rw [hslots, if_neg hother, hfound], hhandle'⟩
    · rintro ⟨found, hfound, rfl⟩
      rcases hentry other found hfound with ⟨rfl, rfl⟩ | ⟨hne, hold⟩
      · exact if_pos rfl
      · rw [if_neg hne]
        exact (h.live _ other).mpr ⟨found, hold, rfl⟩
  case refs =>
    intro other found hfound
    rcases hentry other found hfound with ⟨rfl, rfl⟩ | ⟨hne, hold⟩
    · simp [hgranted, hreturned, List.count_append, hnogrant, hnoreturn, hrefs]
    · rw [hcount _ hne, hreturned]
      exact h.refs other found hold
  case loading =>
    intro other
    rw [hacquires, hslots]
    by_cases hother : other = name
    · simp [hother]
    · rw [if_neg hother, if_neg hother]
      exact h.loading other
  case reloading =>
    intro other found hfound
    rw [hreloads]
    rcases hentry other found hfound with ⟨rfl, rfl⟩ | ⟨-, hold⟩
    · rw [hnoreload, hreloading, if_neg Bool.false_ne_true]
    · exact h.reloading other found hold
  case minted =>
    rw [hminted, hissued, List.range_succ, List.map_append, h.minted, hhandle]
    rfl
  case dead =>
    intro handle hmade
    rw [hnames, hreturned]
    by_cases hsame : handle = entry.handle
    · simp [hsame, hgranted, List.count_append, hnogrant, hnoreturn]
    · rw [if_neg hsame, hcount _ hsame]
      rw [hminted, List.mem_append, List.mem_singleton] at hmade
      exact h.dead handle (hmade.resolve_right hsame)
  case unmade =>
    intro handle hmade
    rw [hminted, List.mem_append, List.mem_singleton, not_or] at hmade
    rw [hnames, if_neg hmade.2, hcount _ hmade.2, hreturned, hreloads]
    exact h.unmade handle hmade.1

/-- A ready name loses its last reference. -/
theorem Owned.of_last (h : traffic.Owned) {entry : Entry}
    (hslot : traffic.table.slot? name = some (.ready entry)) (hrefs : entry.refs ≤ 1)
    (hslots : ∀ other, later.table.slot? other =
      if other = name then none else traffic.table.slot? other)
    (hnames : ∀ handle, later.table.name? handle =
      if handle = entry.handle then none else traffic.table.name? handle)
    (hissued : later.table.issued = traffic.table.issued) (hminted : later.minted = traffic.minted)
    (hgranted : later.granted = traffic.granted)
    (hreturned : later.returned = traffic.returned ++ [entry.handle])
    (hinFlight : later.inFlight = traffic.inFlight) : later.Owned := by
  have hlive := (h.live entry.handle name).mpr ⟨entry, hslot, rfl⟩
  obtain ⟨hone, hbalance⟩ := h.refs name entry hslot
  have hreloads : ∀ handle, later.reloads handle = traffic.reloads handle :=
    fun handle => by rw [reloads, reloads, hinFlight]
  have hentry : ∀ other found, later.table.slot? other = some (.ready found) →
      found.handle ≠ entry.handle ∧ traffic.table.slot? other = some (.ready found) := by
    intro other found hfound
    rcases ready_of_slots hslots hfound with ⟨-, hnew⟩ | ⟨hother, hold⟩
    · cases hnew
    · exact ⟨fun heq => hother (h.name_eq hold hslot heq), hold⟩
  have hcount : ∀ handle ≠ entry.handle,
      later.returned.count handle = traffic.returned.count handle := by
    intro handle hne
    simp [hreturned, List.count_append, Ne.symm hne]
  constructor
  case live =>
    intro handle other
    rw [hnames]
    constructor
    · intro hname
      split at hname
      case isTrue => cases hname
      case isFalse hne =>
        obtain ⟨found, hfound, rfl⟩ := (h.live handle other).mp hname
        have hother : other ≠ name := by
          rintro rfl
          obtain rfl : entry = found := by simpa using hslot.symm.trans hfound
          exact hne rfl
        exact ⟨found, by rw [hslots, if_neg hother, hfound], rfl⟩
    · rintro ⟨found, hfound, rfl⟩
      obtain ⟨hne, hold⟩ := hentry other found hfound
      rw [if_neg hne]
      exact (h.live _ other).mpr ⟨found, hold, rfl⟩
  case refs =>
    intro other found hfound
    obtain ⟨hne, hold⟩ := hentry other found hfound
    rw [hcount _ hne, hgranted]
    exact h.refs other found hold
  case loading =>
    intro other
    rw [hinFlight, h.loading, hslots]
    by_cases hother : other = name
    · simp [hother, hslot]
    · rw [if_neg hother]
  case reloading =>
    intro other found hfound
    rw [hreloads]
    exact h.reloading other found (hentry other found hfound).2
  case minted => rw [hminted, hissued, h.minted]
  case dead =>
    intro handle hmade
    rw [hnames, hgranted]
    by_cases hsame : handle = entry.handle
    · subst hsame
      simp only [hreturned, List.count_append, List.count_singleton_self, ↓reduceIte, true_iff]
      omega
    · rw [if_neg hsame, hcount _ hsame]
      exact h.dead handle (hminted ▸ hmade)
  case unmade =>
    intro handle hmade
    rw [hminted] at hmade
    have hne : handle ≠ entry.handle := fun heq => hmade (heq ▸ h.mem_minted hlive)
    rw [hnames, if_neg hne, hcount _ hne, hgranted, hreloads]
    exact h.unmade handle hmade

/-! ### Requests

Recording an outcome takes the request out of those in flight, once. -/

theorem reloads_erase {request : Request} (h : request.handle? ≠ some handle) :
    ((traffic.inFlight.erase request).filter fun request => request.handle? = some handle) =
      traffic.reloads handle := by
  rw [← List.erase_filter]
  exact List.erase_of_not_mem fun hmem => h (by simpa using (List.mem_filter.mp hmem).2)

theorem reloads_concat (traffic : Traffic) (request : Request) (handle : Handle) :
    ((traffic.inFlight ++ [request]).filter fun request => request.handle? = some handle) =
      traffic.reloads handle ++ if request.handle? = some handle then [request] else [] := by
  rw [List.filter_append, reloads]
  by_cases h : request.handle? = some handle <;> simp [h]

/-- A name for which a request is in flight is being built. -/
theorem Owned.slot?_of_mem (h : traffic.Owned) (hmem : .acquire name ∈ traffic.inFlight) :
    traffic.table.slot? name = some .loading := by
  have hcount := h.loading name
  have hpos := List.count_pos_iff.mpr hmem
  by_contra hslot
  rw [if_neg hslot] at hcount
  omega

/-! ### Sections

Each section by its cases, and each case by one of the four changes. -/

theorem Owned.claim (h : traffic.Owned) (name : Text) : (traffic.after (.claim name)).Owned := by
  rcases traffic.after_claim_cases name with hafter | ⟨entry, hslot, hafter⟩ | ⟨hslot, hafter⟩
  · rwa [hafter]
  · obtain ⟨hone, hcount⟩ := h.refs name entry hslot
    rw [hafter]
    refine h.of_entry { entry with refs := entry.refs + 1 } hslot rfl
      (Slots.slot?_set _ _ _) rfl rfl rfl ⟨by simp, ?_⟩ (h.reloading name entry hslot)
      (fun other hother => ⟨?_, rfl, rfl⟩) fun _ => rfl
    · simp only [List.count_append, List.count_singleton_self]
      omega
    · simp [List.count_append, hother.symm]
  -- The name was unloaded, so no request for it was in flight.
  · rw [hafter]
    refine h.of_idle (some .loading) (by simp [hslot]) (by simp) (Slots.slot?_set _ _ _)
      rfl rfl rfl rfl rfl (fun handle => ?_) fun other => ?_
    · exact (traffic.reloads_concat _ handle).trans (by simp [Request.handle?])
    · by_cases hother : other = name
      · subst hother
        simp [List.count_append, h.loading, hslot]
      · simp [List.count_append, hother, Ne.symm hother]

theorem count_erase_acquire (traffic : Traffic) (name other : Text) :
    (traffic.inFlight.erase (.acquire name)).count (.acquire other) =
      traffic.inFlight.count (.acquire other) - if other = name then 1 else 0 := by
  rw [List.count_erase]
  by_cases h : other = name
  · simp [h]
  · simp [h, Ne.symm h]

theorem Owned.settle (h : traffic.Owned) (outcome : Outcome)
    (hmem : .acquire name ∈ traffic.inFlight) : (traffic.after (.settle name outcome)).Owned := by
  have hslot := h.slot?_of_mem hmem
  have hreloads : ∀ handle, ((traffic.inFlight.erase (.acquire name)).filter fun request =>
      request.handle? = some handle) = traffic.reloads handle :=
    fun handle => reloads_erase (by simp [Request.handle?])
  -- With the request gone there is none for the name, and it is not being built any more.
  have hidle : ∀ slot : Option Slot, slot ≠ some .loading → ∀ other,
      (traffic.inFlight.erase (.acquire name)).count (.acquire other) =
        if other = name then if slot = some .loading then 1 else 0
        else traffic.inFlight.count (.acquire other) := by
    intro slot hslot' other
    rw [count_erase_acquire]
    by_cases hother : other = name
    · simp [hother, h.loading, hslot, hslot']
    · simp [hother]
  rcases outcome with failure | ⟨source, program⟩
  · by_cases htransient : failure.error.isTransient
    · simp only [Traffic.after, Slots.settle, if_pos htransient]
      exact h.of_idle none (by simp [hslot]) (by simp) (Slots.slot?_erase _ _)
        rfl rfl rfl rfl rfl hreloads (hidle _ (by simp))
    · simp only [Traffic.after, Slots.settle, if_neg htransient]
      exact h.of_idle (some (.failed failure.error failure.source)) (by simp [hslot])
        (by simp) (Slots.slot?_set _ _ _) rfl rfl rfl rfl rfl hreloads (hidle _ (by simp))
  · have hnone := (h.unmade _ h.next_notMem).1
    simp only [Traffic.after, Slots.settle]
    refine h.of_new ⟨⟨traffic.table.issued + 1⟩, source, program, 1, false⟩ hslot rfl rfl rfl
      (Slots.slot?_set _ _ _) (fun handle => ?_) rfl rfl rfl rfl hreloads
      (hidle none (by simp))
    exact Slots.lookup_concat hnone

theorem Owned.release (h : traffic.Owned) (handle : Handle) :
    (traffic.after (.release handle)).Owned := by
  rcases traffic.after_release_cases handle with
    hafter | ⟨name, entry, -, hslot, rfl, ⟨hrefs, hafter⟩ | ⟨hrefs, hafter⟩⟩
  · rwa [hafter]
  -- One of several references.
  · obtain ⟨hone, hcount⟩ := h.refs name entry hslot
    rw [hafter]
    refine h.of_entry { entry with refs := entry.refs - 1 } hslot rfl
      (Slots.slot?_set _ _ _) rfl rfl rfl ⟨Nat.le_sub_one_of_lt hrefs, ?_⟩
      (h.reloading name entry hslot) (fun other hother => ⟨rfl, ?_, rfl⟩) fun _ => rfl
    · simp only [List.count_append, List.count_singleton_self]
      omega
    · simp [List.count_append, hother.symm]
  -- The last one: handle and name are gone.
  · rw [hafter]
    refine h.of_last hslot hrefs (Slots.slot?_erase _ _) (fun handle => ?_) rfl rfl rfl rfl rfl
    by_cases hsame : handle = entry.handle
    · rw [if_pos hsame, hsame]
      exact Slots.lookup_filter_self traffic.table.names
    · rw [if_neg hsame]
      exact Slots.lookup_filter_of_ne traffic.table.names hsame

theorem Owned.mark (h : traffic.Owned) (name : Text) : (traffic.after (.mark name)).Owned := by
  rcases traffic.after_mark_cases name with hafter | ⟨entry, hslot, hreloading, hafter⟩
  · rwa [hafter]
  · have hreload := h.reloading name entry hslot
    rw [hreloading, if_neg Bool.false_ne_true] at hreload
    rw [hafter]
    refine h.of_entry { entry with reloading := true } hslot rfl
      (Slots.slot?_set _ _ _) rfl rfl rfl (h.refs name entry hslot) ?_
      (fun other hother => ⟨rfl, rfl, ?_⟩) fun other => ?_
    · refine (traffic.reloads_concat _ _).trans ?_
      simp [hreload, Request.handle?]
    · refine (traffic.reloads_concat _ _).trans ?_
      simp [Request.handle?, hother.symm]
    · simp [List.count_append]

theorem Owned.replace (h : traffic.Owned) (outcome : Outcome)
    (hmem : .reload name handle ∈ traffic.inFlight) :
    (traffic.after (.replace name handle outcome)).Owned := by
  have hacquires : ∀ other, (traffic.inFlight.erase (.reload name handle)).count (.acquire other) =
      traffic.inFlight.count (.acquire other) := fun other => List.count_erase_of_ne (by simp)
  have hothers : ∀ other ≠ handle, ((traffic.inFlight.erase (.reload name handle)).filter
      fun request => request.handle? = some other) = traffic.reloads other :=
    fun other hother => reloads_erase (by simpa [Request.handle?] using hother.symm)
  have hmem' : .reload name handle ∈ traffic.reloads handle :=
    List.mem_filter.mpr ⟨hmem, by simp [Request.handle?]⟩
  -- An entry with this handle is marked for this very request, so no request for it is left.
  have hself : ∀ other found, traffic.table.slot? other = some (.ready found) →
      found.handle = handle → other = name ∧
        ((traffic.inFlight.erase (.reload name handle)).filter
          fun request => request.handle? = some handle) = [] := by
    rintro other found hfound rfl
    have hreload := h.reloading other found hfound
    cases hreloading : found.reloading with
    | false => simp [hreload, hreloading] at hmem'
    | true =>
      rw [hreloading, if_pos rfl] at hreload
      obtain rfl : name = other := by simpa [hreload] using hmem'
      refine ⟨rfl, ?_⟩
      rw [← List.erase_filter]
      exact (congrArg (List.erase · _) hreload).trans (List.erase_cons_head ..)
  rcases traffic.table.replace_cases name handle outcome with ⟨entry, hslot, rfl, h'⟩ |
    ⟨hgone, hreplace⟩
  · have hnone := (hself name entry hslot rfl).2
    rcases h' with ⟨source, program, rfl, hreplace⟩ | ⟨failure, rfl, hreplace⟩
    · simp only [Traffic.after, hreplace]
      exact h.of_entry { entry with source, program, reloading := false } hslot rfl
        (Slots.slot?_set _ _ _) rfl rfl rfl (h.refs name entry hslot) hnone
        (fun other hother => ⟨rfl, rfl, hothers other hother⟩) hacquires
    · simp only [Traffic.after, hreplace]
      exact h.of_entry { entry with reloading := false } hslot rfl
        (Slots.slot?_set _ _ _) rfl rfl rfl (h.refs name entry hslot) hnone
        (fun other hother => ⟨rfl, rfl, hothers other hother⟩) hacquires
  -- The handle is gone. Nothing but the retired programs changes, and one request is over.
  · have hmade : handle ∈ traffic.minted := by
      by_contra hmade
      simp [(h.unmade handle hmade).2.2.2] at hmem'
    simp only [Traffic.after, hreplace]
    refine ⟨h.live, h.refs, fun other => (hacquires other).trans (h.loading other),
      fun other found hfound => ?_, h.minted, h.dead, fun other hother => ?_⟩
    · have hne : found.handle ≠ handle := fun heq =>
        hgone found ((hself other found hfound heq).1 ▸ hfound) heq
      exact (hothers _ hne).trans (h.reloading other found hfound)
    · obtain ⟨hname, hgranted, hreturned, hreloads⟩ := h.unmade other hother
      exact ⟨hname, hgranted, hreturned,
        (hothers other fun heq => hother (heq ▸ hmade)).trans hreloads⟩

theorem Owned.clearFailed (h : traffic.Owned) (name : Text) :
    (traffic.after (.clearFailed name)).Owned := by
  rcases traffic.table.clearFailed_cases name with hclear | ⟨error, source, hslot, hclear⟩
  · simp only [Traffic.after, hclear]
    exact h
  · simp only [Traffic.after, hclear]
    refine h.of_idle none (by simp [hslot]) (by simp) (Slots.slot?_erase _ _)
      rfl rfl rfl rfl rfl (fun _ => rfl) fun other => ?_
    by_cases hother : other = name
    · simp [hother, h.loading, hslot]
    · simp [hother]

/-- **Every section keeps everything accounted for.** -/
theorem Owned.after (h : traffic.Owned) (step : Section) (hallows : traffic.Allows step) :
    (traffic.after step).Owned := by
  cases step with
  | claim name => exact h.claim name
  | settle name outcome => exact h.settle outcome hallows
  | release handle => exact h.release handle
  | mark name => exact h.mark name
  | replace name handle outcome => exact h.replace outcome hallows
  | clearFailed name => exact h.clearFailed name
  | sweep isHeld => exact ⟨h.live, h.refs, h.loading, h.reloading, h.minted, h.dead, h.unmade⟩

theorem owned_empty : Owned {} where
  live _ _ := by simp [Slots.name?, Slots.slot?]
  refs _ _ h := by simp [Slots.slot?] at h
  loading _ := by simp [Slots.slot?]
  reloading _ _ h := by simp [Slots.slot?] at h
  minted := rfl
  dead _ h := by simp at h
  unmade _ _ := by simp [Slots.name?, reloads]

theorem Owned.reached (h : traffic.Owned) (hreached : traffic.Reached later) : later.Owned := by
  induction hreached with
  | refl => exact h
  | step _ step hallows ih => exact ih.after step hallows

end Traffic

end ShaderBundle
