import ShaderBundle.Proofs.Headless.Layout
import ShaderBundle.Proofs.Headless.Outcome

/-!
# Locations stand for names

The backend gives a location to every varying that a source declares without a layout. It reads the
location off a table that it keeps for life and that only grows: a name is put at the end when it is
met for the first time, and stays where it is. So a location stands for one name, in every source of
a run, whatever else is done with the backend and whether or not the front end accepts what it is
given. Two stages of a program meet at such a location exactly if they spell the name alike.

## Fillings

To say that two sources of a run agree about a location, one has to keep the sources. A `Filling` is
a source with what came out of it, at the time when its layouts were filled in, and a `Run` has the
fillings on the way to a state in order. They are not part of any state of the backend, which keeps
only the table. The invariant `Names` relates the two: the table has the names of the varyings of
all fillings, once each, and every varying came out with the place of its name.

Fillings are kept although the front end may refuse them. A refused source has put its names into
the table, and the claim that there are no gaps is about all names.

## What a run may do

A run fills in layouts, by itself or in compiling, and in between it does any other operation of the
backend, in any order and number. The front end is arbitrary. So the theorem is about everything
that can happen to one backend.

## Main definitions

* `varying?` is the name of the varying that a line declares without a layout.
* `Filling` is one source with its layouts filled in, `Filling.Gives` what it gives a name.
* `Filling.Run`: the fillings on the way to a state of the backend.
* `Varyings.Names`: a table stands for fillings.

## Main results

* `Filling.Run.names`: the table stands for the fillings of the run.
* `Filling.Run.stable`: locations are a stable injective naming, without gaps.

## Implementation notes

A location is less than the number of names, so it fits a word of 32 bits as long as there are not
more names than such words. It is a natural number here, and no statement in this module depends on
the bound.
-/

namespace ShaderBundle.Headless

open Allocation

variable {front : FrontEnd} {stage : Stage}

/-! ### Tables

Tables grow at the end, so that one is a prefix of another. A place that is found in a prefix is
found in the whole. -/

namespace Varyings

variable {table : Varyings} {name other : Text}

/-- What stands in a beginning of a list stands in the list. -/
theorem getElem?_of_prefix {first all : List Text} (h : first <+: all) {k : Nat} {name : Text}
    (hget : first[k]? = some name) : all[k]? = some name := by
  obtain ⟨hlt, rfl⟩ := List.getElem?_eq_some_iff.mp hget
  exact List.prefix_iff_getElem?.mp h k hlt

/-- Names that were there stay where they were. -/
theorem prefix_locate (table : Varyings) (name : Text) :
    table.names <+: (table.locate name).2.names := by
  rw [locate]
  split
  · exact List.prefix_rfl
  · exact List.prefix_append _ _

/-- The location of a name is where it stands afterwards. -/
theorem getElem?_locate (table : Varyings) (name : Text) :
    (table.locate name).2.names[(table.locate name).1]? = some name := by
  rw [locate]
  split
  case h_1 location hlocation =>
    obtain ⟨hlt, hget, -⟩ := List.idxOf?_eq_some_iff.mp hlocation
    rw [List.getElem?_eq_getElem hlt, hget]
  case h_2 => exact List.getElem?_concat_length

theorem mem_locate : other ∈ (table.locate name).2.names ↔ other ∈ table.names ∨ other = name := by
  rw [locate]
  split
  case h_1 location hlocation =>
    have hmem : name ∈ table.names := by
      by_contra hnot
      rw [location?, List.idxOf?_eq_none_iff.mpr hnot] at hlocation
      cases hlocation
    constructor
    · exact Or.inl
    · rintro (h | rfl)
      · exact h
      · exact hmem
  case h_2 => simp

/-- A name is put into the table once. -/
theorem nodup_locate (h : table.names.Nodup) (name : Text) :
    (table.locate name).2.names.Nodup := by
  rw [locate]
  split
  case h_1 => exact h
  case h_2 hnone =>
    have hnot : name ∉ table.names := List.idxOf?_eq_none_iff.mp hnone
    exact List.nodup_append.mpr ⟨h, List.nodup_singleton name, fun a ha b hb heq =>
      hnot (List.mem_singleton.mp hb ▸ heq ▸ ha)⟩

/-- The table behind names that are looked up in order. -/
def record (table : Varyings) (names : List Text) : Varyings :=
  names.foldl (fun known name => (known.locate name).2) table

@[simp] theorem record_nil (table : Varyings) : table.record [] = table := rfl

@[simp] theorem record_cons (table : Varyings) (name : Text) (rest : List Text) :
    table.record (name :: rest) = (table.locate name).2.record rest := rfl

theorem prefix_record (table : Varyings) (names : List Text) :
    table.names <+: (table.record names).names := by
  induction names generalizing table with
  | nil => exact List.prefix_rfl
  | cons name rest ih => exact (table.prefix_locate name).trans (ih _)

theorem mem_record {names : List Text} :
    other ∈ (table.record names).names ↔ other ∈ table.names ∨ other ∈ names := by
  induction names generalizing table with
  | nil => simp
  | cons name rest ih => rw [record_cons, ih, mem_locate, List.mem_cons, or_assoc]

theorem nodup_record (h : table.names.Nodup) (names : List Text) :
    (table.record names).names.Nodup := by
  induction names generalizing table with
  | nil => exact h
  | cons name rest ih => exact ih (nodup_locate h name)

end Varyings

/-! ### Layouts -/

theorem decimal_injective {m n : Nat} (h : decimal m = decimal n) : m = n := by
  calc
    m = Nat.ofDigitChars 10 (decimal m) 0 := Nat.ofDigitChars_ten_toDigits.symm
    _ = Nat.ofDigitChars 10 (decimal n) 0 := by rw [h]
    _ = n := Nat.ofDigitChars_ten_toDigits

theorem locationLayout_injective {m n : Nat} (h : locationLayout m = locationLayout n) : m = n :=
  decimal_injective (List.append_cancel_left (List.append_cancel_right h))

/-! ### Lines -/

/-- The name of the varying that a line declares without a layout. -/
def varying? (stage : Stage) (line : Text) : Option Text :=
  match Declaration.bare? line with
  | some declaration => if isVarying stage declaration.storage then some declaration.name else none
  | none => none

/-- A line adds the name of its varying to the table. -/
theorem varyings_give {line : Text} {declaration : Declaration}
    (h : Declaration.bare? line = some declaration) (known : Allocation) :
    (give stage known declaration).2.varyings =
      known.varyings.record (varying? stage line).toList := by
  rw [varying?, h]
  simp only []
  unfold give
  split
  · rfl
  · split <;> rfl

/-- **The names that a source adds are those of its varyings, in order.** -/
theorem varyings_fill (known : Allocation) (ls : List Text) :
    (fill stage known ls).2.varyings = known.varyings.record (ls.filterMap (varying? stage)) := by
  induction ls generalizing known with
  | nil => rfl
  | cons line ls ih =>
    cases hbare : Declaration.bare? line with
    | none =>
      have hnone : varying? stage line = none := by rw [varying?, hbare]
      rw [fill_cons_of_bare?_eq_none hbare, List.filterMap_cons_none hnone]
      exact ih known
    | some declaration =>
      rw [fill_cons_of_bare? hbare]
      simp only
      rw [ih, varyings_give hbare]
      cases hname : varying? stage line with
      | none => rw [List.filterMap_cons_none hname]; rfl
      | some name => rw [List.filterMap_cons_some hname]; rfl

/-- A line that declares a varying comes out with the location at which its name stands in the
end. -/
theorem getElem?_fill {ls : List Text} {k : Nat} {line name : Text} (hline : ls[k]? = some line)
    (hname : varying? stage line = some name) (known : Allocation) :
    ∃ location, (fill stage known ls).2.varyings.names[location]? = some name ∧
      (fill stage known ls).1[k]? = some (Allocation.insert (locationLayout location) line) := by
  induction ls generalizing known k with
  | nil => simp at hline
  | cons head ls ih =>
    cases k with
    | zero =>
      obtain rfl : head = line := by simpa using hline
      -- the location is read off the table now, and the table only grows from here on
      cases hbare : Declaration.bare? head with
      | none => simp [varying?, hbare] at hname
      | some declaration =>
        obtain ⟨hvarying, rfl⟩ : isVarying stage declaration.storage = true ∧
            declaration.name = name := by simpa [varying?, hbare] using hname
        refine ⟨(known.varyings.locate declaration.name).1, ?_, ?_⟩
        · rw [varyings_fill, List.filterMap_cons_some hname, Varyings.record_cons]
          exact Varyings.getElem?_of_prefix (Varyings.prefix_record _ _)
            (known.varyings.getElem?_locate declaration.name)
        · rw [fill_cons_of_bare? hbare, give, if_pos hvarying]
          rfl
    | succ k =>
      have hrest : ls[k]? = some line := by simpa using hline
      cases hbare : Declaration.bare? head with
      | none =>
        obtain ⟨location, hlocation, hout⟩ := ih hrest known
        refine ⟨location, ?_, ?_⟩
        · rwa [fill_cons_of_bare?_eq_none hbare]
        · rwa [fill_cons_of_bare?_eq_none hbare, List.getElem?_cons_succ]
      | some declaration =>
        obtain ⟨location, hlocation, hout⟩ := ih hrest (give stage known declaration).2
        refine ⟨location, ?_, ?_⟩
        · rwa [fill_cons_of_bare? hbare]
        · rwa [fill_cons_of_bare? hbare, List.getElem?_cons_succ]

/-! ### Sources -/

/-- One source with its layouts filled in. -/
structure Filling where
  /-- The stage of the source. -/
  stage : Stage
  /-- The source. -/
  source : Text
  /-- What it comes out as. -/
  filled : Text
  deriving DecidableEq, Repr

namespace Filling

/-- The filling of a source onto a table. -/
def onto (table : Varyings) (stage : Stage) (source : Text) : Filling :=
  ⟨stage, source, (assign table stage source).1⟩

/-- A line of the source declares a varying of this name without a layout. -/
def Declares (filling : Filling) (name : Text) : Prop :=
  ∃ line ∈ filling.source.pieces, varying? filling.stage line = some name

/-- A line of the source declares a varying of this name without a layout, and comes out with this
location. -/
def Gives (filling : Filling) (name : Text) (location : Nat) : Prop :=
  ∃ (k : Nat) (line : Text),
    filling.source.pieces[k]? = some line ∧ varying? filling.stage line = some name ∧
    filling.filled.pieces[k]? = some (Allocation.insert (locationLayout location) line)

end Filling

/-- The table stands for the fillings: it has their names, once each, and every varying that they
declare has got the location where its name stands. -/
structure Varyings.Names (table : Varyings) (fillings : List Filling) : Prop where
  /-- A name has one location. -/
  nodup : table.names.Nodup
  /-- The names are those of the varyings. -/
  mem_iff : ∀ name, name ∈ table.names ↔ ∃ filling ∈ fillings, filling.Declares name
  /-- A varying has got the location of its name. -/
  gives : ∀ filling ∈ fillings, ∀ (k : Nat) (line name : Text),
    filling.source.pieces[k]? = some line → varying? filling.stage line = some name →
      ∃ location, table.names[location]? = some name ∧
        filling.filled.pieces[k]? = some (Allocation.insert (locationLayout location) line)

namespace Varyings.Names

variable {table : Varyings} {fillings : List Filling}

theorem empty : Names {} [] where
  nodup := List.nodup_nil
  mem_iff name := by simp
  gives := by simp

/-- The table behind a source is the one before it with the names of the source. -/
theorem varyings_assign (table : Varyings) (stage : Stage) (source : Text) :
    (assign table stage source).2 = table.record (source.pieces.filterMap (varying? stage)) :=
  varyings_fill (ofLines table source.pieces) source.pieces

/-- **Filling in one more source keeps the locations that were given, and adds its names.** -/
theorem fill (h : table.Names fillings) (stage : Stage) (source : Text) :
    (assign table stage source).2.Names (fillings ++ [.onto table stage source]) where
  nodup := by
    rw [varyings_assign]
    exact nodup_record h.nodup _
  mem_iff name := by
    rw [varyings_assign, mem_record, h.mem_iff]
    simp only [List.mem_append, List.mem_singleton, or_and_right, exists_or, exists_eq_left,
      List.mem_filterMap]
    rfl
  gives filling hfilling k line name hline hname := by
    rcases List.mem_append.mp hfilling with hold | hnew
    · obtain ⟨location, hlocation, hout⟩ := h.gives filling hold k line name hline hname
      refine ⟨location, getElem?_of_prefix ?_ hlocation, hout⟩
      rw [varyings_assign]
      exact prefix_record _ _
    · obtain rfl := List.mem_singleton.mp hnew
      obtain ⟨location, hlocation, hout⟩ :=
        getElem?_fill hline hname (ofLines table source.pieces)
      refine ⟨location, hlocation, ?_⟩
      rw [Filling.onto, pieces_assign]
      exact hout

/-- What a filling gives a name is where the name stands. -/
theorem getElem?_of_gives (h : table.Names fillings) {filling : Filling} (hmem : filling ∈ fillings)
    {name : Text} {location : Nat} (hgives : filling.Gives name location) :
    table.names[location]? = some name := by
  obtain ⟨k, line, hline, hname, hout⟩ := hgives
  obtain ⟨found, hfound, hout'⟩ := h.gives filling hmem k line name hline hname
  have hsame : locationLayout location = locationLayout found :=
    insert_injective (Option.some.inj (hout.symm.trans hout'))
  rwa [locationLayout_injective hsame]

theorem gives_of_declares (h : table.Names fillings) {filling : Filling}
    (hmem : filling ∈ fillings) {name : Text} (hdeclares : filling.Declares name) :
    ∃ location, filling.Gives name location := by
  obtain ⟨line, hline, hname⟩ := hdeclares
  obtain ⟨k, hk⟩ := List.mem_iff_getElem?.mp hline
  obtain ⟨location, -, hout⟩ := h.gives filling hmem k line name hk hname
  exact ⟨location, k, line, hk, hname, hout⟩

/-- Two varyings of any two fillings have one location exactly if they have one name. -/
theorem location_eq_iff (h : table.Names fillings) {filling other : Filling}
    (hfilling : filling ∈ fillings) (hother : other ∈ fillings) {name name' : Text}
    {location location' : Nat} (hgives : filling.Gives name location)
    (hgives' : other.Gives name' location') : location = location' ↔ name = name' := by
  have hname := h.getElem?_of_gives hfilling hgives
  have hname' := h.getElem?_of_gives hother hgives'
  have hlt : location < table.names.length := (List.getElem?_eq_some_iff.mp hname).1
  rw [← List.getElem?_inj hlt h.nodup, hname, hname', Option.some.injEq]

/-- The locations in use are those of the names. -/
theorem location_lt_iff (h : table.Names fillings) (location : Nat) :
    (∃ filling ∈ fillings, ∃ name, filling.Gives name location) ↔
      location < table.names.length := by
  constructor
  · rintro ⟨filling, hmem, name, hgives⟩
    exact (List.getElem?_eq_some_iff.mp (h.getElem?_of_gives hmem hgives)).1
  · intro hlt
    obtain ⟨filling, hmem, hdeclares⟩ :=
      (h.mem_iff table.names[location]).mp (List.getElem_mem hlt)
    obtain ⟨found, hgives⟩ := h.gives_of_declares hmem hdeclares
    have hfound := h.getElem?_of_gives hmem hgives
    obtain rfl : location = found := by
      rw [← List.getElem?_inj hlt h.nodup, hfound, List.getElem?_eq_getElem hlt]
    exact ⟨filling, hmem, _, hgives⟩

end Varyings.Names

/-! ### Runs

Only filling in changes the table: two of the constructors restore the invariant, and the last one
leaves the table as it is. -/

/-- The filling that compiling a source makes, if the front end reads stages of its kind. -/
def State.fillings (s : State) (stage : Stage) (source : Text) : List Filling :=
  if supports stage then [.onto s.varyings stage (liftVersion source)] else []

/-- The fillings that were made on the way to a state: by filling in layouts, by compiling, whether
or not the front end accepts what comes out, and between any other operations. -/
inductive Filling.Run (front : FrontEnd) : List Filling → State → Prop where
  | fresh : Run front [] {}
  | fill {fillings : List Filling} {s : State} (h : Run front fillings s) (stage : Stage)
    (source : Text) : Run front (fillings ++ [.onto s.varyings stage source])
      { s with varyings := (assign s.varyings stage source).2 }
  | compile {fillings : List Filling} {s : State} (h : Run front fillings s) (stage : Stage)
    (source : Text) : Run front (fillings ++ s.fillings stage source)
      (s.compile front stage source).2
  | other {fillings : List Filling} {s t : State} (h : Run front fillings s) {events : List Event}
    (hstep : (backend front).Step s events t)
    (hother : ∀ stage, .call (.compile stage) ∉ events) : Run front fillings t

/-- What compiling a source leaves is a stage made of its filling, or nothing. -/
theorem State.compile_fillings (front : FrontEnd) (stage : Stage) (source : Text) (s : State) :
    (s.fillings stage source = [] ∧ (s.compile front stage source).2 = s) ∨
      ∃ filling, s.fillings stage source = [filling] ∧
        filling = .onto s.varyings stage (liftVersion source) ∧
        (s.compile front stage source).2.varyings =
          (assign s.varyings stage (liftVersion source)).2 ∧
        ∀ compiled ∈ (s.compile front stage source).2.stages, compiled ∈ s.stages ∨
          (compiled.stage = stage ∧ front stage filling.filled = .ok compiled.module) := by
  rw [State.fillings, State.compile]
  split
  · refine .inr ⟨_, rfl, rfl, ?_⟩
    simp only [Filling.onto]
    cases hfront : front stage (assign s.varyings stage (liftVersion source)).1 with
    | error log => exact ⟨rfl, fun compiled hcompiled => .inl hcompiled⟩
    | ok module =>
      refine ⟨rfl, fun compiled hcompiled => ?_⟩
      rcases List.mem_append.mp hcompiled with hold | hnew
      · exact .inl hold
      · obtain rfl := List.mem_singleton.mp hnew
        exact .inr ⟨rfl, rfl⟩
  · exact .inl ⟨rfl, rfl⟩

/-- Only compiling adds to the table, and only compiling makes stages. -/
theorem varyings_of_step {s t : State} {events : List Event}
    (h : (backend front).Step s events t) (hother : ∀ stage, .call (.compile stage) ∉ events) :
    t.varyings = s.varyings ∧ t.stages ⊆ s.stages := by
  obtain ⟨_, call, _, job, _, hop, -, rfl, rfl⟩ := h.exists_answered (backend_returns front)
  cases hop with
  | compile stage source => exact absurd List.mem_cons_self (hother stage)
  | deleteStage stage => exact ⟨rfl, List.filter_subset_self _⟩
  | link program =>
    change (s.link program).2.varyings = _ ∧ (s.link program).2.stages ⊆ _
    rcases s.link_cases program with ⟨_, hlink⟩ | ⟨_, _, hlink⟩
    · rw [hlink]
      exact ⟨rfl, List.Subset.refl _⟩
    · rw [hlink]
      exact ⟨rfl, List.Subset.refl _⟩
  | setUniform program location value =>
    change (s.setUniform program location value).varyings = _ ∧
      (s.setUniform program location value).stages ⊆ _
    rcases s.setUniform_cases program location value with hsame | ⟨-, hstored⟩
    · rw [hsame]
      exact ⟨rfl, List.Subset.refl _⟩
    · rw [hstored]
      exact ⟨rfl, List.Subset.refl _⟩
  | _ => exact ⟨rfl, List.Subset.refl _⟩

namespace Filling.Run

variable {fillings : List Filling} {s : State}

/-- **The table stands for the fillings of the run.** -/
theorem names (h : Run front fillings s) : s.varyings.Names fillings := by
  induction h with
  | fresh => exact .empty
  | fill _ stage source ih => exact ih.fill stage source
  | compile _ stage source ih =>
    rcases State.compile_fillings front stage source _ with
      ⟨hnone, hsame⟩ | ⟨_, hone, rfl, hvaryings, -⟩
    · rwa [hnone, hsame, List.append_nil]
    · rw [hone, hvaryings]
      exact ih.fill stage (liftVersion source)
  | other _ hstep hother ih => rwa [(varyings_of_step hstep hother).1]

/-- Every live stage is what the front end made of a filling. -/
theorem exists_filling (h : Run front fillings s) : ∀ compiled ∈ s.stages,
    ∃ filling ∈ fillings, compiled.stage = filling.stage ∧
      front filling.stage filling.filled = .ok compiled.module := by
  induction h with
  | fresh => simp
  | fill _ stage source ih =>
    intro compiled hcompiled
    obtain ⟨filling, hmem, hmade⟩ := ih compiled hcompiled
    exact ⟨filling, List.mem_append_left _ hmem, hmade⟩
  | compile _ stage source ih =>
    intro compiled hcompiled
    rcases State.compile_fillings front stage source _ with
      ⟨hnone, hsame⟩ | ⟨filling, hone, rfl, -, hstages⟩
    · rw [hnone, List.append_nil]
      exact ih compiled (hsame ▸ hcompiled)
    · rw [hone]
      -- the stage was there before, or it was made of the filling just now
      rcases hstages compiled hcompiled with hold | ⟨hstage, hmade⟩
      · obtain ⟨filling, hmem, hmade⟩ := ih compiled hold
        exact ⟨filling, List.mem_append_left _ hmem, hmade⟩
      · exact ⟨_, List.mem_append_right _ (List.mem_singleton_self _), hstage, hmade⟩
  | other _ hstep hother ih =>
    intro compiled hcompiled
    exact ih compiled ((varyings_of_step hstep hother).2 hcompiled)

/-- Whatever operations lead to a state, the layouts filled in on the way are those of a run. -/
theorem exists_of_path {t : State} {events : List Event} (h : Run front fillings s)
    (hpath : (backend front).Path s events t) : ∃ all, fillings <+: all ∧ Run front all t := by
  induction hpath generalizing fillings with
  | refl _ => exact ⟨fillings, List.prefix_rfl, h⟩
  | @step s t u first rest hstep _ ih =>
    suffices hfirst : ∃ middle, fillings <+: middle ∧ Run front middle t by
      obtain ⟨middle, hbegins, hmiddle⟩ := hfirst
      obtain ⟨all, hall, hrun⟩ := ih hmiddle
      exact ⟨all, hbegins.trans hall, hrun⟩
    by_cases hother : ∀ stage, .call (.compile stage) ∉ first
    · exact ⟨fillings, List.prefix_rfl, h.other hstep hother⟩
    · obtain ⟨_, call, _, job, _, hop, -, rfl, rfl⟩ :=
        hstep.exists_answered (backend_returns front)
      cases hop with
      | compile stage source => exact ⟨_, List.prefix_append _ _, h.compile stage source⟩
      | _ => exact absurd (by simp [exchange]) hother

/-- **Locations are a stable injective naming, without gaps.** In a run every varying without a
layout gets a location; two of them, in whatever sources, get the same one exactly if they have the
same name; and the locations given out are those below the number of names on record, which are the
names of the varyings, once each. The live stages, those of one program among them, were made of the
sources that these locations are in. -/
theorem stable (h : Run front fillings s) :
    (∀ filling ∈ fillings, ∀ (k : Nat) (line name : Text), filling.source.pieces[k]? = some line →
      varying? filling.stage line = some name → ∃ location,
        filling.filled.pieces[k]? = some (Allocation.insert (locationLayout location) line)) ∧
    (∀ filling ∈ fillings, ∀ other ∈ fillings, ∀ name name' location location',
      filling.Gives name location → other.Gives name' location' →
        (location = location' ↔ name = name')) ∧
    (∀ location, (∃ filling ∈ fillings, ∃ name, filling.Gives name location) ↔
      location < s.varyings.names.length) ∧
    s.varyings.names.Nodup ∧
    (∀ name, name ∈ s.varyings.names ↔ ∃ filling ∈ fillings, filling.Declares name) ∧
    ∀ compiled ∈ s.stages, ∃ filling ∈ fillings, compiled.stage = filling.stage ∧
      front filling.stage filling.filled = .ok compiled.module := by
  have hnames := h.names
  refine ⟨?_, ?_, hnames.location_lt_iff, hnames.nodup, hnames.mem_iff, h.exists_filling⟩
  · intro filling hmem k line name hline hname
    obtain ⟨location, -, hout⟩ := hnames.gives filling hmem k line name hline hname
    exact ⟨location, hout⟩
  · intro filling hfilling other hother name name' location location' hgives hgives'
    exact hnames.location_eq_iff hfilling hother hgives hgives'

/-- A front end that reads nothing but vertex stages. -/
def vertexOnly : FrontEnd := fun stage _ => if stage = .vertex then .ok {} else .error []

/-- The state behind the one side of an interface. -/
def facing : State :=
  (State.compile vertexOnly .vertex "out vec3 v;\nout vec3 w;".toList {}).2

/-- The other side is refused, and its names count all the same. -/
theorem stable_facing :
    (State.compile vertexOnly .fragment "in vec3 w;\nin vec3 x;".toList facing).1 = .error [] ∧
      ∀ location,
        (∃ filling ∈ State.fillings {} .vertex "out vec3 v;\nout vec3 w;".toList ++
          facing.fillings .fragment "in vec3 w;\nin vec3 x;".toList, ∃ name,
            filling.Gives name location) ↔ location < 3 := by
  have hfirst : Run vertexOnly _ facing := fresh.compile .vertex "out vec3 v;\nout vec3 w;".toList
  have hrun := hfirst.compile .fragment "in vec3 w;\nin vec3 x;".toList
  have hnames : (State.compile vertexOnly .fragment "in vec3 w;\nin vec3 x;".toList
      facing).2.varyings.names = [['v'], ['w'], ['x']] := by decide +kernel
  refine ⟨by decide +kernel, fun location => ?_⟩
  have hlocations := (stable hrun).2.2.1 location
  rw [List.nil_append] at hlocations
  rw [hlocations]
  change location < (State.compile vertexOnly .fragment "in vec3 w;\nin vec3 x;".toList
      facing).2.varyings.names.length ↔ location < 3
  rw [hnames]
  rfl

end Filling.Run

end ShaderBundle.Headless
