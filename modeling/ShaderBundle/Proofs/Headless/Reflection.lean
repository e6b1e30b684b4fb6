import ShaderBundle.Proofs.Headless.Interface
import ShaderBundle.Proofs.Headless.StoredValues

/-!
# Programs that link, and what they list

Stages make a program if one of them is a compute stage and there is no other, or if none of them is
and the first vertex stage writes whatever the first fragment stage reads. What such a program lists
is a list of uniforms without its repetitions, numbered through. The backend makes it in one pass,
by looking each global up in what it has listed so far; that this finds the first uniform of each
name, and numbers them without a gap, is carried by one equation for the pass from any list onwards.

A stage is any module: what it reads and writes is said by `Module.Reads` and `Module.Writes`, over
its entry points and the structures that cross them, and what its globals are by where they are kept
and by their types.

## What is compared

Linking collects the locations that an entry point reads and writes and compares two lists. `Links`
says what that comes to without lists: for whatever the fragment stage reads there is something the
vertex stage writes at the same location. Names and types at a location are not compared, and a
vertex stage may write what nobody reads. A program with several stages of one kind links by the
first of each; one without a compute stage needs both a vertex and a fragment stage.

## What is listed

A global is a uniform to the user of a program if it has a name, is kept among uniforms or handles,
and is no sampler (`Module.uniformOf?`). Push constants, buffers and variables of the invocation are
not. The kinds of uniforms come from types, and a type that has no kind of its own is listed as
something else.

Stages are gone through in the order in which they were attached, and of several uniforms with one
name the first is listed, whatever the others are. So a name that two stages declare with different
types has the type of the first.

## A refused link

It leaves the state as it was, including the uniforms of an earlier link, which is the last clause
of `State.link_reflects`.

## Main definitions

* `First`: a stage comes first of its kind.
* `Links`: stages that make a program.
* `Module.uniforms`: the globals of a stage that are uniforms to the user of a program.
* `listing`: what some uniforms are listed as.
* `State.Reflects`: a program lists the uniforms of some stages.

## Main results

* `checkStages_eq_ok_iff`: which stages make a program.
* `listUniforms_eq`: what is listed of them.
* `State.link_reflects`: when a link is accepted, and what it leaves.
-/

namespace ShaderBundle.Headless

variable {kind : Stage} {stages : List Compiled} {compiled other : Compiled}

/-! ### Which stages make a program

The check looks for the first stage of each of three kinds and for inputs that nothing writes. Each
look is turned into a statement about the stages, and then the cases are compared. -/

/-- A stage is of a kind, and none of that kind comes before it. -/
def First (kind : Stage) (stages : List Compiled) (compiled : Compiled) : Prop :=
  compiled.stage = kind ∧ ∃ before after, stages = before ++ compiled :: after ∧
    ∀ other ∈ before, other.stage ≠ kind

/-- Stages that make a program. -/
inductive Links : List Compiled → Prop where
  /-- A compute stage alone. -/
  | alone {compiled : Compiled} (h : compiled.stage = .compute) : Links [compiled]
  /-- A vertex and a fragment stage that fit, and no compute stage. -/
  | paired {stages : List Compiled} {vertex fragment : Compiled}
    (hvertex : First .vertex stages vertex) (hfragment : First .fragment stages fragment)
    (hcompute : ∀ compiled ∈ stages, compiled.stage ≠ .compute)
    (hwritten : ∀ input, fragment.module.Reads input →
      ∃ output, vertex.module.Writes output ∧ output.location = input.location) : Links stages

theorem First.mem (h : First kind stages compiled) : compiled ∈ stages := by
  obtain ⟨-, before, after, rfl, -⟩ := h
  simp

theorem find?_eq_some_iff_first :
    stages.find? (fun compiled => compiled.stage = kind) = some compiled ↔
      First kind stages compiled := by
  simp [List.find?_eq_some_iff_append, First]

theorem firstOf?_eq_some_iff {module : Module} :
    firstOf? kind stages = some module ↔
      ∃ compiled, First kind stages compiled ∧ compiled.module = module := by
  simp only [firstOf?, Option.map_eq_some_iff, find?_eq_some_iff_first]

theorem firstOf?_eq_none_iff :
    firstOf? kind stages = none ↔ ∀ compiled ∈ stages, compiled.stage ≠ kind := by
  simp [firstOf?]

theorem First.firstOf?_eq (h : First kind stages compiled) :
    firstOf? kind stages = some compiled.module :=
  firstOf?_eq_some_iff.mpr ⟨compiled, h, rfl⟩

/-- Nothing is read that is not written. -/
theorem unwrittenInputs_eq_nil_iff {vertex fragment : Module} :
    unwrittenInputs vertex fragment = [] ↔
      ∀ input, fragment.Reads input →
        ∃ output, vertex.Writes output ∧ output.location = input.location := by
  simp only [unwrittenInputs, List.filter_eq_nil_iff, Module.mem_entryInputs_iff,
    Bool.not_eq_true', Bool.not_eq_false, List.contains_iff_mem, List.mem_map,
    Module.mem_entryOutputs_iff]

/-- A compute stage among stages that make a program is the only one. -/
theorem Links.eq_singleton (h : Links stages) (hmem : compiled ∈ stages)
    (hcompute : compiled.stage = .compute) : stages = [compiled] := by
  cases h with
  | alone => rw [List.mem_singleton.mp hmem]
  | paired _ _ hnone => exact absurd hcompute (hnone compiled hmem)

/-- Without a compute stage there are two stages that fit. -/
theorem Links.exists_first (h : Links stages) (hnone : firstOf? .compute stages = none) :
    ∃ vertex fragment, First .vertex stages vertex ∧ First .fragment stages fragment ∧
      unwrittenInputs vertex.module fragment.module = [] := by
  cases h with
  | alone hcompute => exact absurd hcompute (firstOf?_eq_none_iff.mp hnone _ List.mem_cons_self)
  | paired hvertex hfragment _ hwritten =>
    exact ⟨_, _, hvertex, hfragment, unwrittenInputs_eq_nil_iff.mpr hwritten⟩

/-- **Which stages make a program.** -/
theorem checkStages_eq_ok_iff : checkStages stages = .ok () ↔ Links stages := by
  rw [checkStages]
  split
  next hvertex _ hcompute =>
    obtain ⟨compiled, hfirst, -⟩ := firstOf?_eq_some_iff.mp hcompute
    split
    next hlength =>
      obtain ⟨only, rfl⟩ := List.length_eq_one_iff.mp hlength
      obtain rfl := List.mem_singleton.mp hfirst.mem
      exact iff_of_true rfl (.alone hfirst.1)
    next hlength =>
      refine iff_of_false (by simp) fun h => hlength ?_
      rw [h.eq_singleton hfirst.mem hfirst.1, List.length_singleton]
  next vertex fragment hvertex hfragment hcompute =>
    have hlinks : Links stages ↔ unwrittenInputs vertex fragment = [] := by
      obtain ⟨first, hfirst, rfl⟩ := firstOf?_eq_some_iff.mp hvertex
      obtain ⟨second, hsecond, rfl⟩ := firstOf?_eq_some_iff.mp hfragment
      constructor
      · intro h
        obtain ⟨first', second', hfirst', hsecond', hwritten⟩ := h.exists_first hcompute
        rw [hfirst.firstOf?_eq] at hvertex
        rwa [← Option.some.inj (hfirst'.firstOf?_eq.symm.trans hfirst.firstOf?_eq),
          ← Option.some.inj (hsecond'.firstOf?_eq.symm.trans hsecond.firstOf?_eq)]
      · intro h
        exact .paired hfirst hsecond (firstOf?_eq_none_iff.mp hcompute)
          (unwrittenInputs_eq_nil_iff.mp h)
    rw [hlinks]
    split
    next hnil => exact iff_of_true rfl hnil
    next endpoints hcons => exact iff_of_false (by simp) hcons
  next hcompute hother =>
    -- the compute stage is not alone, for then there would be neither of the other two
    obtain ⟨compiled, hfirst, -⟩ := firstOf?_eq_some_iff.mp hcompute
    refine iff_of_false (by simp) fun h => ?_
    have honly := h.eq_singleton hfirst.mem hfirst.1
    have hnone : ∀ kind ≠ .compute, firstOf? kind stages = none := fun kind hkind => by
      rw [firstOf?_eq_none_iff, honly]
      rintro other hmem rfl
      rw [List.mem_singleton.mp hmem] at hkind
      exact hkind hfirst.1
    exact hother (hnone _ (by decide)) (hnone _ (by decide))
  next hcompute hother =>
    refine iff_of_false (by simp) fun h => ?_
    obtain ⟨vertex, fragment, hvertex, hfragment, -⟩ := h.exists_first hcompute
    exact hother _ _ hvertex.firstOf?_eq hfragment.firstOf?_eq

/-! ### What is listed

The pass has two loops, over stages and over the globals of each. Put in a row the globals make one
list, and the pass over it adds one uniform after the other. -/

/-- The uniform that a global is, before it has a location: the global has a name, it is kept among
the uniforms or among the handles, and it is no sampler. -/
def Module.uniformOf? (module : Module) (global : GlobalVariable) : Option UniformInfo :=
  global.name?.bind fun name =>
    if (global.space = .uniform ∨ global.space = .handle) ∧
        module.types.inner global.ty ≠ .sampler then
      some {
        name
        location := none
        kind := (module.types.uniformKind global.ty).1
        size := (module.types.uniformKind global.ty).2 }
    else none

/-- The uniforms among the globals of a stage. -/
def Module.uniforms (module : Module) : List UniformInfo :=
  module.globals.filterMap module.uniformOf?

/-- The first uniform of each name. -/
def firsts : List UniformInfo → List UniformInfo
  | [] => []
  | info :: infos => info :: (firsts infos).filter fun other => other.name ≠ info.name

/-- Uniforms with their places as locations, counted from a number on. -/
def numberFrom (start : Nat) (infos : List UniformInfo) : List UniformInfo :=
  infos.mapIdx fun place info => { info with location := some ⟨start + place⟩ }

/-- What some uniforms are listed as: of those with one name the first one, each with its place as
its location. -/
def listing (infos : List UniformInfo) : List UniformInfo :=
  numberFrom 0 (firsts infos)

/-- The names of the first ones differ. -/
theorem nodup_map_name_firsts (infos : List UniformInfo) :
    ((firsts infos).map UniformInfo.name).Nodup := by
  induction infos with
  | nil => exact .nil
  | cons info infos ih =>
    rw [firsts, List.map_cons, List.nodup_cons]
    refine ⟨fun hmem => ?_, ih.sublist (List.filter_sublist.map _)⟩
    obtain ⟨other, hother, hname⟩ := List.mem_map.mp hmem
    exact of_decide_eq_true (List.mem_filter.mp hother).2 hname

theorem numberFrom_cons (start : Nat) (info : UniformInfo) (infos : List UniformInfo) :
    numberFrom start (info :: infos) =
      { info with location := some ⟨start⟩ } :: numberFrom (start + 1) infos := by
  simp only [numberFrom, List.mapIdx_cons, Nat.add_zero, Nat.add_assoc, Nat.add_comm 1]

theorem map_name_numberFrom (start : Nat) (infos : List UniformInfo) :
    (numberFrom start infos).map UniformInfo.name = infos.map UniformInfo.name := by
  induction infos generalizing start with
  | nil => rfl
  | cons info infos ih => rw [numberFrom_cons, List.map_cons, List.map_cons, ih]

/-- The list with one more uniform, unless its name is taken. -/
def listInfo (listed : List UniformInfo) (info : UniformInfo) : List UniformInfo :=
  if listed.any fun known => known.name == info.name then listed
  else listed ++ [{ info with location := some ⟨listed.length⟩ }]

theorem isListed_iff {space : AddressSpace} :
    space.isListed = true ↔ space = .uniform ∨ space = .handle := by
  cases space <;> simp [AddressSpace.isListed]

/-- A global adds the uniform that it is, if it is one. -/
theorem listUniform_eq (module : Module) (listed : List UniformInfo) (global : GlobalVariable) :
    listUniform module listed global =
      ((module.uniformOf? global).map (listInfo listed)).getD listed := by
  simp only [listUniform, Module.uniformOf?, ← isListed_iff]
  cases global.name? with
  | none => simp
  | some name =>
    cases global.space.isListed with
    | false => simp
    | true =>
      by_cases hsampler : module.types.inner global.ty = .sampler
      · simp [hsampler]
      · simp [hsampler, listInfo]

theorem foldl_listUniform (module : Module) (globals : List GlobalVariable)
    (listed : List UniformInfo) :
    globals.foldl (listUniform module) listed =
      (globals.filterMap module.uniformOf?).foldl listInfo listed := by
  induction globals generalizing listed with
  | nil => rfl
  | cons global globals ih =>
    rw [List.foldl_cons, listUniform_eq, ih]
    cases hinfo : module.uniformOf? global with
    | none => rw [List.filterMap_cons_none hinfo, Option.map_none, Option.getD_none]
    | some info =>
      rw [List.filterMap_cons_some hinfo, List.foldl_cons, Option.map_some, Option.getD_some]

/-- The pass over the uniforms, from any list onwards: what is listed already stands, and the names
in it count for nothing. -/
theorem foldl_listInfo (infos listed : List UniformInfo) :
    infos.foldl listInfo listed = listed ++ numberFrom listed.length
      ((firsts infos).filter fun info => !listed.any fun known => known.name == info.name) := by
  induction infos generalizing listed with
  | nil => simp [firsts, numberFrom]
  | cons info infos ih =>
    rw [List.foldl_cons, listInfo, ih, firsts]
    by_cases hlisted : listed.any fun known => known.name == info.name
    · rw [List.filter_cons_of_neg (by simp [hlisted]), List.filter_filter]
      simp only [hlisted, if_true]
      congr 3
      funext other
      -- a name that is listed need not be told apart from that of this uniform
      by_cases hname : other.name = info.name
      · simp only [hname, hlisted, Bool.not_true, Bool.false_and]
      · simp [hname]
    · rw [List.filter_cons_of_pos (by simpa using hlisted), numberFrom_cons, List.filter_filter]
      simp only [hlisted, Bool.false_eq_true, if_false, List.append_assoc, List.singleton_append,
        List.length_append, List.length_singleton]
      congr 4
      funext other
      simp [Bool.beq_eq_decide_eq, eq_comm]

/-- **What is listed of some stages.** -/
theorem listUniforms_eq (stages : List Compiled) :
    listUniforms stages = listing (stages.flatMap fun compiled => compiled.module.uniforms) := by
  have hpass : ∀ listed, stages.foldl (fun listed compiled =>
      compiled.module.globals.foldl (listUniform compiled.module) listed) listed =
        (stages.flatMap fun compiled => compiled.module.uniforms).foldl listInfo listed := by
    intro listed
    simp only [foldl_listUniform]
    exact (List.foldl_flatMap ..).symm
  rw [listUniforms, hpass, foldl_listInfo, listing]
  simp

theorem location_of_getElem?_listing {infos : List UniformInfo} {place : Nat} {info : UniformInfo}
    (h : (listing infos)[place]? = some info) : info.location = some ⟨place⟩ := by
  rw [listing, numberFrom, List.getElem?_mapIdx] at h
  obtain ⟨known, -, rfl⟩ := Option.map_eq_some_iff.mp h
  rw [Nat.zero_add]

theorem nodup_map_name_listing (infos : List UniformInfo) :
    ((listing infos).map UniformInfo.name).Nodup := by
  rw [listing, map_name_numberFrom]
  exact nodup_map_name_firsts _

/-- Among uniforms with different names each is the first of its name. -/
theorem find?_name_of_nodup {infos : List UniformInfo} (h : (infos.map UniformInfo.name).Nodup)
    {info : UniformInfo} (hmem : info ∈ infos) :
    infos.find? (fun other => other.name == info.name) = some info := by
  obtain ⟨before, after, rfl⟩ := List.append_of_mem hmem
  rw [List.map_append, List.map_cons, List.nodup_middle, List.nodup_cons] at h
  refine List.find?_eq_some_iff_append.mpr ⟨beq_self_eq_true _, before, after, rfl, ?_⟩
  intro other hother
  have hne : other.name ≠ info.name := fun heq =>
    h.1 (List.mem_append_left _ (heq ▸ List.mem_map_of_mem hother))
  simpa using hne

/-! ### A link

The stages of a program are the attached ones that are still there. One that was deleted after it
was attached counts for nothing. -/

namespace State

variable {s t : State} {program : ProgramId}

/-- The stages of a program that are still there, in the order in which they were attached. One that
is attached twice counts twice. -/
def liveStages (s : State) (record : ProgramRecord) : List Compiled :=
  record.attached.filterMap s.stage?

/-- A program lists the uniforms of some stages, and they are found by their names. -/
structure Reflects (t : State) (program : ProgramId) (stages : List Compiled) : Prop where
  /-- The uniforms are those of the stages. -/
  listed : t.uniforms program = listing (stages.flatMap fun compiled => compiled.module.uniforms)
  /-- No two of them have one name. -/
  distinct : ((t.uniforms program).map UniformInfo.name).Nodup
  /-- The location of each is its place. -/
  numbered : ∀ (place : Nat) (info : UniformInfo), (t.uniforms program)[place]? = some info →
    info.location = some ⟨place⟩
  /-- Each is found by its name. -/
  found : ∀ info ∈ t.uniforms program, t.uniformLocation program info.name = info.location
  /-- By any other name nothing is found. -/
  missed : ∀ name, (∀ info ∈ t.uniforms program, info.name ≠ name) →
    t.uniformLocation program name = none

theorem uniforms_of_link {record : ProgramRecord} (hrecord : s.program? program = some record)
    (h : s.link program = (.ok (), t)) :
    t.uniforms program = listUniforms (s.liveStages record) := by
  obtain ⟨other, hother, rfl⟩ := link_eq_ok h
  obtain rfl := Option.some.inj (hother.symm.trans hrecord)
  rw [State.uniforms, s.program?_modifyProgram_eq program program ?_, hrecord, Option.map_some,
    if_pos rfl]
  · rfl
  · exact fun _ => rfl

/-- Uniforms that are listed are found by their names. -/
theorem Reflects.of_uniforms_eq {stages : List Compiled}
    (h : t.uniforms program = listUniforms stages) : t.Reflects program stages := by
  rw [listUniforms_eq] at h
  have hdistinct : ((t.uniforms program).map UniformInfo.name).Nodup := by
    rw [h]
    exact nodup_map_name_listing _
  refine ⟨h, hdistinct, fun place info hinfo => ?_, fun info hmem => ?_, fun name hnone => ?_⟩
  · rw [h] at hinfo
    exact location_of_getElem?_listing hinfo
  · rw [uniformLocation, find?_name_of_nodup hdistinct hmem]
  · have hfind : (t.uniforms program).find? (fun info => info.name == name) = none := by
      simpa using hnone
    rw [uniformLocation, hfind]

theorem link_fst_eq_ok_iff : (s.link program).1 = .ok () ↔
    ∃ record, s.program? program = some record ∧ Links (s.liveStages record) := by
  rw [State.link]
  cases s.program? program with
  | none => simp
  | some record =>
    simp only [Option.some.injEq, exists_eq_left', ← checkStages_eq_ok_iff]
    change _ ↔ checkStages (record.attached.filterMap s.stage?) = _
    split
    next hfault => simp [hfault]
    next hok => simp [hok]

/-- **When a link is accepted, and what it leaves.** It is accepted if the stages of the program
that are still there make a program, and then the program lists their uniforms. If it is refused,
everything stays as it was. -/
theorem link_reflects (s : State) (program : ProgramId) :
    ((s.link program).1 = .ok () ↔
      ∃ record, s.program? program = some record ∧ Links (s.liveStages record)) ∧
    (∀ record t, s.program? program = some record → s.link program = (.ok (), t) →
      t.Reflects program (s.liveStages record)) ∧
    ∀ fault t, s.link program = (.error fault, t) → t = s :=
  ⟨link_fst_eq_ok_iff, fun _ _ hrecord h => .of_uniforms_eq (uniforms_of_link hrecord h),
    fun _ _ h => eq_of_link_eq_error h⟩

/-- A program with a vertex and a fragment stage, both of which have the uniform `tint`; a sampler
stands between, and a third stage is deleted. The vertex stage hands back a structure, as front ends
make it of several outputs. -/
def tinted : State where
  counter := 4
  stages := [
    ⟨⟨1⟩, .vertex, {
      types := { types := [.matrix .quad .quad, .vector .quad .float, .vector .bi .float,
        .struct [{ ty := 1, binding? := some .builtIn },
          { name? := some "uv".toList, ty := 2, binding? := some (.location 0) }]] }
      globals := [⟨some "mvp".toList, .uniform, 0⟩, ⟨some "tint".toList, .uniform, 1⟩,
        ⟨some "uv".toList, .invocation, 2⟩]
      entryPoints := [{ result? := some { ty := 3 } }] }⟩,
    ⟨⟨2⟩, .fragment, {
      types := { types := [.sampler, .vector .quad .float, .struct [{ ty := 1 }], .image .two false,
        .vector .bi .float, .array 3 (.constant 4)] }
      globals := [⟨some "linear".toList, .handle, 0⟩, ⟨some "tint".toList, .uniform, 1⟩,
        ⟨none, .uniform, 2⟩, ⟨some "images".toList, .handle, 5⟩]
      entryPoints := [{
        arguments := [{ name? := some "uv".toList, ty := 4, binding? := some (.location 0) }] }] }⟩]
  programs := [{ id := ⟨4⟩, attached := [⟨1⟩, ⟨3⟩, ⟨2⟩] }]

/-- It lists the uniform once. -/
theorem link_reflects_tinted :
    (tinted.link ⟨4⟩).2.uniforms ⟨4⟩ = [⟨"mvp".toList, some ⟨0⟩, .mat4, 1⟩,
      ⟨"tint".toList, some ⟨1⟩, .vec4, 1⟩, ⟨"images".toList, some ⟨2⟩, .sampler2D, 4⟩] ∧
    (tinted.link ⟨4⟩).2.uniformLocation ⟨4⟩ "tint".toList = some ⟨1⟩ ∧
    (tinted.link ⟨4⟩).2.uniformLocation ⟨4⟩ "linear".toList = none := by
  have hprogram : tinted.program? ⟨4⟩ = some ⟨⟨4⟩, [⟨1⟩, ⟨3⟩, ⟨2⟩], [], [], false⟩ := rfl
  have hlink : tinted.link ⟨4⟩ = (.ok (), (tinted.link ⟨4⟩).2) :=
    Prod.ext (by decide +kernel) rfl
  have hreflects := (link_reflects tinted ⟨4⟩).2.1 _ _ hprogram hlink
  have huniforms : (tinted.link ⟨4⟩).2.uniforms ⟨4⟩ = [⟨"mvp".toList, some ⟨0⟩, .mat4, 1⟩,
      ⟨"tint".toList, some ⟨1⟩, .vec4, 1⟩, ⟨"images".toList, some ⟨2⟩, .sampler2D, 4⟩] := by
    rw [hreflects.listed]
    decide +kernel
  refine ⟨huniforms, ?_, hreflects.missed _ ?_⟩
  · exact hreflects.found ⟨"tint".toList, some ⟨1⟩, .vec4, 1⟩ (by simp [huniforms])
  · rw [huniforms]
    decide +kernel

end State

end ShaderBundle.Headless
