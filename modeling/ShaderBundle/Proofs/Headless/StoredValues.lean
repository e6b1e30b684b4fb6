import ShaderBundle.Proofs.Graphics.Bystanders
import ShaderBundle.Text.Search

/-!
# Values and the uniforms they were written to

The headless backend keeps the values that are written to uniforms, by program and location. What a
location means is told by the uniforms of the program, and linking the program again replaces them.
A value is checked when it is written and it goes with its program, but it is not looked at when the
program is linked again: so it may come to stand at a location where there is no uniform any more,
or one of another kind.

This module says what an operation can do to values and uniforms, and from that when values match
their uniforms: as long as no program is linked again with uniforms that do not keep its values.

## Four kinds of steps

An operation leaves values and uniforms alone, or links a program, or deletes one, or writes a value
to a uniform that keeps it. `changes_of_step` sorts every operation under one of these; the rest is
about the four kinds. Linking is the only one of them that can separate a value from its uniform,
since it exchanges the uniforms of a program and does not touch the values.

## The condition is exact

A link is `Careful` if the uniforms it leaves keep the values the program has. Along a way all
values match all the time exactly if every step is careful. One direction is an induction; the other
is immediate, because a careless link leaves a state that does not match.

What holds in any case is weaker and is stated beside it: the program of a value exists, and at some
time on the way the uniform at that location kept it.

## Main definitions

* `State.Suits`: the uniform at a location keeps a value.
* `State.Matches`: all values are such as the uniforms at their locations keep.
* `State.Changes`: what an operation does to values and uniforms.
* `State.Careful`: no accepted link leaves a value behind.
* `Way`: the states on the way to a state.

## Main results

* `Way.matches_iff`: values match their uniforms exactly if no link leaves one behind.
* `Way.not_matches_relinked`: a link that does.
-/

namespace ShaderBundle.Headless

variable {front : FrontEnd}

namespace State

variable {s t : State}

/-- The uniform at a location, if there is one, keeps a value. -/
def Suits (s : State) (program : ProgramId) (location : Location) (value : UniformValue) : Prop :=
  ∃ kind, s.kindAt? program location = some kind ∧ keeps kind value = true

/-- Every value is such as the uniform at its location keeps. -/
def Matches (s : State) : Prop :=
  ∀ program location value, s.value? program location = some value →
    s.Suits program location value

/-- If one state is the other one behind an accepted link of a program, then the uniforms of the
program are such as keep the values it has. -/
def Careful (s t : State) : Prop :=
  ∀ program, s.link program = (.ok (), t) → ∀ location value,
    s.value? program location = some value → t.Suits program location value

/-! ### Programs and their uniforms -/

theorem uniforms_modifyProgram (s : State) (program other : ProgramId)
    {f : ProgramRecord → ProgramRecord} (hf : ∀ record, (f record).id = record.id)
    (huniforms : ∀ record, (f record).uniforms = record.uniforms) :
    (s.modifyProgram program f).uniforms other = s.uniforms other := by
  rw [State.uniforms, State.uniforms, s.program?_modifyProgram_eq program other hf]
  cases s.program? other with
  | none => rfl
  | some record =>
    simp only [Option.map_some]
    split
    · exact huniforms record
    · rfl

/-- A new program has no uniforms. -/
theorem uniforms_create (s : State) (other : ProgramId) :
    s.create.2.uniforms other = s.uniforms other := by
  rw [State.uniforms, State.uniforms, program?_create]
  cases s.program? other with
  | some record => rfl
  | none =>
    by_cases hnew : s.create.1 = other
    · rw [if_pos hnew]
      rfl
    · rw [if_neg hnew]
      rfl

/-- A program with a uniform exists. -/
theorem Suits.isSome_program? {program : ProgramId} {location : Location} {value : UniformValue}
    (h : s.Suits program location value) : (s.program? program).isSome := by
  obtain ⟨kind, hkind, -⟩ := h
  rw [kindAt?, State.uniforms] at hkind
  cases hprogram : s.program? program with
  | none => simp [hprogram] at hkind
  | some record => rfl

theorem Suits.of_uniforms_eq {program : ProgramId} {location : Location} {value : UniformValue}
    (h : s.Suits program location value) (huniforms : t.uniforms program = s.uniforms program) :
    t.Suits program location value := by
  rwa [Suits, kindAt?, huniforms]

/-! ### Values

Two equations for reading a value behind a change of the values: behind a write, and behind the end
of a program. -/

theorem value?_store (s : State) (program other : ProgramId) (location place : Location)
    (value : UniformValue) :
    (s.store program location value).value? other place =
      if program = other ∧ location = place then some value else s.value? other place := by
  rw [State.value?, State.store, List.find?_cons]
  by_cases hhere : program = other ∧ location = place
  · simp [hhere]
  · simp only [hhere, decide_false, if_false, List.find?_filter, State.value?]
    congr 2
    funext stored
    by_cases hstored : stored.program = other ∧ stored.location = place
    · obtain ⟨rfl, rfl⟩ := hstored
      have hother : ¬(stored.program = program ∧ stored.location = location) :=
        fun h => hhere ⟨h.1.symm, h.2.symm⟩
      simp [hother]
    · simp [hstored]

theorem value?_deleteProgram (s : State) (program other : ProgramId) (place : Location) :
    (s.deleteProgram program).value? other place =
      if program = other then none else s.value? other place := by
  change ((s.values.filter fun stored => stored.program ≠ program).find? fun stored =>
    stored.program = other ∧ stored.location = place).map Stored.value = _
  split
  case isTrue hsame =>
    obtain rfl := hsame
    rw [List.find?_eq_none.mpr, Option.map_none]
    intro stored hstored hfound
    have hne : stored.program ≠ program := by simpa using (List.mem_filter.mp hstored).2
    exact hne (of_decide_eq_true hfound).1
  case isFalse hne =>
    rw [List.find?_filter, State.value?]
    congr 2
    funext stored
    by_cases hstored : stored.program = other
    · simp [hstored, Ne.symm hne]
    · simp [hstored]

/-! ### Links -/

theorem value?_of_link {program : ProgramId} (h : s.link program = (.ok (), t)) (other : ProgramId)
    (place : Location) : t.value? other place = s.value? other place := by
  obtain ⟨record, -, rfl⟩ := link_eq_ok h
  rfl

theorem isSome_program?_of_link {program : ProgramId} (h : s.link program = (.ok (), t))
    (other : ProgramId) : (t.program? other).isSome = (s.program? other).isSome := by
  obtain ⟨record, -, rfl⟩ := link_eq_ok h
  exact s.isSome_program?_modifyProgram program other fun _ => rfl

theorem uniforms_of_link_of_ne {program other : ProgramId} (h : s.link program = (.ok (), t))
    (hne : other ≠ program) : t.uniforms other = s.uniforms other := by
  obtain ⟨record, -, rfl⟩ := link_eq_ok h
  rw [State.uniforms, s.program?_modifyProgram_of_ne ?_ hne, State.uniforms]
  exact fun _ => rfl

/-! ### What an operation does -/

/-- What an operation does to values and uniforms. -/
inductive Changes (s t : State) : Prop where
  /-- Nothing. -/
  | same (hvalues : t.values = s.values)
    (huniforms : ∀ program, t.uniforms program = s.uniforms program)
    (hprograms : ∀ program, (s.program? program).isSome → (t.program? program).isSome)
  /-- A program is linked, and its uniforms are replaced. -/
  | linked (program : ProgramId) (h : s.link program = (.ok (), t))
  /-- A program is deleted with its values. -/
  | deleted (program : ProgramId) (h : t = s.deleteProgram program)
  /-- A value is written to a uniform that keeps it. -/
  | written (program : ProgramId) (location : Location) (value : UniformValue)
    (hsuits : s.Suits program location value) (h : t = s.store program location value)

theorem changes_compile (front : FrontEnd) (stage : Stage) (source : Text) (s : State) :
    s.Changes (s.compile front stage source).2 := by
  obtain ⟨_, hrefused | ⟨_, haccepted⟩⟩ := compile_cases front stage source s
  · rw [hrefused]
    exact .same rfl (fun _ => rfl) fun _ h => h
  · rw [haccepted]
    exact .same rfl (fun _ => rfl) fun _ h => h

theorem changes_modifyProgram (s : State) (program : ProgramId)
    {f : ProgramRecord → ProgramRecord} (hf : ∀ record, (f record).id = record.id)
    (huniforms : ∀ record, (f record).uniforms = record.uniforms) :
    s.Changes (s.modifyProgram program f) :=
  .same rfl (fun other => s.uniforms_modifyProgram program other hf huniforms) fun other h => by
    rwa [s.isSome_program?_modifyProgram program other hf]

theorem changes_create (s : State) : s.Changes s.create.2 := by
  refine .same rfl s.uniforms_create fun program h => ?_
  obtain ⟨record, hrecord⟩ := Option.isSome_iff_exists.mp h
  rw [program?_create, hrecord]
  rfl

theorem changes_link (s : State) (program : ProgramId) : s.Changes (s.link program).2 := by
  rcases hlink : s.link program with ⟨fault | ⟨⟩, t⟩
  · rw [eq_of_link_eq_error hlink]
    exact .same rfl (fun _ => rfl) fun _ h => h
  · exact .linked program hlink

theorem changes_setUniform (s : State) (program : ProgramId) (location : Location)
    (value : UniformValue) : s.Changes (s.setUniform program location value) := by
  rcases s.setUniform_cases program location value with hsame | ⟨hsuits, hstored⟩
  · rw [hsame]
    exact .same rfl (fun _ => rfl) fun _ h => h
  · exact .written program location value hsuits hstored

/-- **What an operation does to values and uniforms.** -/
theorem changes_of_step {events : List Event} (h : (backend front).Step s events t) :
    s.Changes t := by
  obtain ⟨_, call, _, job, _, hop, -, rfl, rfl⟩ := h.exists_answered (backend_returns front)
  cases hop with
  | compile stage source => exact changes_compile front stage source s
  | createProgram => exact s.changes_create
  | attach program stage => exact s.changes_modifyProgram program (fun _ => rfl) fun _ => rfl
  | detach program stage => exact s.changes_modifyProgram program (fun _ => rfl) fun _ => rfl
  | link program => exact s.changes_link program
  | deleteProgram program => exact .deleted program rfl
  | setUniform program location value => exact s.changes_setUniform program location value
  | _ => exact .same rfl (fun _ => rfl) fun _ h => h

/-! ### One operation -/

/-- A value that is there behind an operation was there before, or it is written now to a uniform
that keeps it. -/
theorem Changes.value? (h : s.Changes t) {program : ProgramId} {location : Location}
    {value : UniformValue} (hvalue : t.value? program location = some value) :
    s.value? program location = some value ∨ s.Suits program location value := by
  cases h with
  | same hvalues _ _ => exact .inl (by rwa [State.value?, hvalues] at hvalue)
  | linked linked hlink => exact .inl (value?_of_link hlink program location ▸ hvalue)
  | deleted deleted heq =>
    rw [heq, value?_deleteProgram] at hvalue
    split at hvalue
    · cases hvalue
    · exact .inl hvalue
  | written other place new hsuits heq =>
    rw [heq, value?_store] at hvalue
    split at hvalue
    case isTrue hhere =>
      obtain ⟨rfl, rfl⟩ := hhere
      obtain rfl := Option.some.inj hvalue
      exact .inr hsuits
    case isFalse => exact .inl hvalue

/-- A program with values exists behind the operation. -/
theorem Changes.isSome_program? (h : s.Changes t) {program : ProgramId} {location : Location}
    {value : UniformValue} (hprogram : (s.program? program).isSome)
    (hvalue : t.value? program location = some value) : (t.program? program).isSome := by
  cases h with
  | same _ _ hprograms => exact hprograms program hprogram
  | linked linked hlink => rwa [isSome_program?_of_link hlink]
  | deleted deleted heq =>
    subst heq
    by_cases hsame : deleted = program
    · rw [value?_deleteProgram, if_pos hsame] at hvalue
      cases hvalue
    · rwa [s.program?_deleteProgram_of_ne (Ne.symm hsame)]
  | written _ _ _ _ heq => subst heq; exact hprogram

/-- **Values keep matching across any operation that is not a link which leaves one behind.** -/
theorem Changes.matches (h : s.Changes t) (hmatches : s.Matches) (hcareful : s.Careful t) :
    t.Matches := by
  intro program location value hvalue
  cases h with
  | same hvalues huniforms _ =>
    rw [State.value?, hvalues] at hvalue
    exact (hmatches program location value hvalue).of_uniforms_eq (huniforms program)
  -- A value stays through a link. That of the linked program has to suit its new uniform.
  | linked linked hlink =>
    rw [value?_of_link hlink] at hvalue
    by_cases hsame : program = linked
    · subst hsame
      exact hcareful program hlink location value hvalue
    · exact (hmatches program location value hvalue).of_uniforms_eq
        (uniforms_of_link_of_ne hlink hsame)
  -- No value of the deleted program is left, and the others have their uniforms.
  | deleted deleted heq =>
    subst heq
    by_cases hsame : deleted = program
    · rw [value?_deleteProgram, if_pos hsame] at hvalue
      cases hvalue
    · rw [value?_deleteProgram, if_neg hsame] at hvalue
      refine (hmatches program location value hvalue).of_uniforms_eq ?_
      rw [State.uniforms, s.program?_deleteProgram_of_ne (Ne.symm hsame), State.uniforms]
  -- The new value suits, and the others are as they were.
  | written other place new hsuits heq =>
    subst heq
    rw [value?_store] at hvalue
    split at hvalue
    case isTrue hhere =>
      obtain ⟨rfl, rfl⟩ := hhere
      obtain rfl := Option.some.inj hvalue
      exact hsuits.of_uniforms_eq rfl
    case isFalse => exact (hmatches program location value hvalue).of_uniforms_eq rfl

/-- A link that leaves a value behind leaves a state whose values do not match. -/
theorem Matches.careful (h : t.Matches) : s.Careful t := by
  intro program hlink location value hvalue
  exact h program location value (by rwa [value?_of_link hlink])

/-- Nothing is left behind where nothing was written. -/
theorem careful_of_values_eq_nil (h : s.values = []) (t : State) : s.Careful t := by
  intro program _ location value hvalue
  rw [State.value?, h] at hvalue
  cases hvalue

theorem isChain_careful {earlier : List State} (h : ∀ r ∈ earlier, r.values = []) (s : State) :
    (s :: earlier).IsChain fun later r => r.Careful later := by
  induction earlier generalizing s with
  | nil => exact .singleton s
  | cons r rest ih =>
    obtain ⟨hr, hrest⟩ := List.forall_mem_cons.mp h
    exact .cons_cons (careful_of_values_eq_nil hr s) (ih hrest r)

end State

/-! ### Runs

A way has all states on it, the last one first, so that it can be said of each of them that its
values match. -/

/-- The state behind a job. -/
def State.behind {α : Type} (s : State) (job : Job State α) : State :=
  (job.run s).2

/-- The states on the way from a fresh backend to a state, the last one first. -/
inductive Way (front : FrontEnd) : List State → State → Prop where
  | fresh : Way front [] {}
  | step {earlier : List State} {s t : State} (h : Way front earlier s) {events : List Event}
    (hstep : (backend front).Step s events t) : Way front (s :: earlier) t

namespace Way

variable {earlier : List State} {s : State}

/-- An operation leads on, whatever it is. -/
theorem call (h : Way front earlier s) {α : Type} {call : Call} {replies : α → List Reply}
    {job : Job State α} (hop : (backend front).Operation call replies job) :
    Way front (s :: earlier) (s.behind job) := by
  obtain ⟨a, ha⟩ := backend_returns front hop s
  exact h.step (.answered hop (Prod.ext ha rfl))

/-- Whatever operations are called on a fresh backend, there is a way to where they lead. -/
theorem exists_of_path (h : Way front earlier s) {events : List Event} {t : State}
    (hpath : (backend front).Path s events t) : ∃ later, Way front (later ++ earlier) t := by
  induction hpath generalizing earlier with
  | refl s => exact ⟨[], h⟩
  | @step s _ _ _ _ hstep _ ih =>
    obtain ⟨later, hway⟩ := ih (h.step hstep)
    exact ⟨later ++ [s], by rwa [List.append_assoc]⟩

/-- A value is one that was written when a uniform of the program kept it, and its program
exists. -/
theorem exists_suits (h : Way front earlier s) {program : ProgramId} {location : Location}
    {value : UniformValue} (hvalue : s.value? program location = some value) :
    (s.program? program).isSome ∧ ∃ r ∈ earlier, r.Suits program location value := by
  induction h with
  | fresh => cases hvalue
  | step _ hstep ih =>
    have hchanges := State.changes_of_step hstep
    rcases hchanges.value? hvalue with hbefore | hsuits
    · obtain ⟨hprogram, r, hr, hsuits⟩ := ih hbefore
      exact ⟨hchanges.isSome_program? hprogram hvalue, r, List.mem_cons_of_mem _ hr, hsuits⟩
    · exact ⟨hchanges.isSome_program? hsuits.isSome_program? hvalue, _, List.mem_cons_self, hsuits⟩

/-- **Values match their uniforms all the way exactly if no link leaves one behind.** In any case
the program of a value exists, and at some time the uniform at its location kept it. -/
theorem matches_iff (h : Way front earlier s) :
    ((∀ r ∈ s :: earlier, r.Matches) ↔
      (s :: earlier).IsChain fun later r => r.Careful later) ∧
    ∀ program location value, s.value? program location = some value →
      (s.program? program).isSome ∧ ∃ r ∈ earlier, r.Suits program location value := by
  refine ⟨?_, fun _ _ _ hvalue => h.exists_suits hvalue⟩
  induction h with
  | fresh =>
    refine iff_of_true ?_ (.singleton _)
    rintro r (_ | ⟨_, ⟨⟩⟩) program location value hvalue
    cases hvalue
  | @step earlier s t _ _ hstep ih =>
    rw [List.forall_mem_cons, ih, List.isChain_cons_cons]
    constructor
    · rintro ⟨hmatches, hchain⟩
      exact ⟨hmatches.careful, hchain⟩
    · rintro ⟨hcareful, hchain⟩
      exact ⟨(State.changes_of_step hstep).matches (ih.mpr hchain s List.mem_cons_self) hcareful,
        hchain⟩

/-! ### A program that is linked again -/

/-- A front end that reads one uniform off a fragment stage, a matrix or a vector. -/
def oneUniform : FrontEnd := fun stage source =>
  if stage = .fragment then
    let inner : TypeInner := if Text.hasPart "mat4".toList source then .matrix .quad .quad
      else .vector .quad .float
    .ok { types := Arena.empty.push inner, globals := [⟨some ['u'], .uniform, 0⟩] }
  else .ok {}

/-- The number of the program below. -/
def painter : ProgramId := ⟨4⟩

/-- A value for a vector. -/
def black : UniformValue := .vec4 ⟨#[0, 0, 0, 0], rfl⟩

/-- A program with a vertex stage and a fragment stage with a vector. Another fragment stage, with a
matrix, is compiled and not attached. -/
def linkedOnce : State :=
  State.behind {} ((backend oneUniform).compile .vertex [])
    |>.behind ((backend oneUniform).compile .fragment "uniform vec4 u;".toList)
    |>.behind ((backend oneUniform).compile .fragment "uniform mat4 u;".toList)
    |>.behind (backend oneUniform).createProgram
    |>.behind ((backend oneUniform).attach painter ⟨1⟩)
    |>.behind ((backend oneUniform).attach painter ⟨2⟩)
    |>.behind ((backend oneUniform).link painter)

/-- The vector is written. -/
def painted : State :=
  linkedOnce.behind ((backend oneUniform).setUniform painter ⟨0⟩ black)

/-- The other fragment stage takes the place of the first one. -/
def relinked : State :=
  painted.behind ((backend oneUniform).detach painter ⟨2⟩)
    |>.behind ((backend oneUniform).attach painter ⟨3⟩)
    |>.behind ((backend oneUniform).link painter)

theorem exists_way_painted : ∃ earlier, Way oneUniform earlier painted ∧
    ∀ r ∈ earlier, r.values = [] :=
  ⟨_, Way.fresh
    |>.call (.compile .vertex [])
    |>.call (.compile .fragment "uniform vec4 u;".toList)
    |>.call (.compile .fragment "uniform mat4 u;".toList)
    |>.call .createProgram
    |>.call (.attach painter ⟨1⟩)
    |>.call (.attach painter ⟨2⟩)
    |>.call (.link painter)
    |>.call (.setUniform painter ⟨0⟩ black), by decide +kernel⟩

/-- The first link was the only one, so the value matches. -/
theorem matches_iff_painted : painted.value? painter ⟨0⟩ = some black ∧ painted.Matches := by
  obtain ⟨earlier, hway, hvalues⟩ := exists_way_painted
  refine ⟨by decide +kernel, ?_⟩
  exact (matches_iff hway).1.mpr (State.isChain_careful hvalues _) painted List.mem_cons_self

/-- **A link that leaves a value behind**: the vector is still stored where a matrix is now. -/
theorem not_matches_relinked : ∃ earlier, Way oneUniform earlier relinked ∧
    relinked.value? painter ⟨0⟩ = some black ∧ relinked.kindAt? painter ⟨0⟩ = some .mat4 ∧
      ¬relinked.Matches := by
  obtain ⟨earlier, hway, -⟩ := exists_way_painted
  have hvalue : relinked.value? painter ⟨0⟩ = some black := by decide +kernel
  have hkind : relinked.kindAt? painter ⟨0⟩ = some .mat4 := by decide +kernel
  refine ⟨_, hway.call (.detach painter ⟨2⟩) |>.call (.attach painter ⟨3⟩) |>.call (.link painter),
    hvalue, hkind, fun hmatches => ?_⟩
  obtain ⟨kind, hkind', hkeeps⟩ := hmatches painter ⟨0⟩ black hvalue
  obtain rfl : kind = .mat4 := Option.some.inj (hkind'.symm.trans hkind)
  cases hkeeps

end Way

end ShaderBundle.Headless
