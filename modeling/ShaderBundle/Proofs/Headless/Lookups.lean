import ShaderBundle.Proofs.Bundle.Blocks
import ShaderBundle.Proofs.Graphics.Remembering
import ShaderBundle.Proofs.Headless.StoredValues

/-!
# Lookups over the headless backend

The headless backend finds the names of a program in two tables, which an accepted link replaces and
nothing else changes. So a program may keep the answers to its lookups for life, and callers need
not know that it does.

## The two halves

That answers last is a property of the backend, and is proved by going through its operations
(`backend_lasting`). That a program which keeps answers gives the right ones is a property of
programs over any backend of which answers last, and known already. What is new here is what the two
give together: every answer, from memory or not, is where the name is found in the state of the
backend now, and this is a function of the state that does not mention programs.

A lookup does not change the state, so `lookups_of_life` can state what a lookup comes to with the
same state on both sides.

## Main definitions

* `State.tables`: the tables in which the names of a program are found.
* `State.location`: where a name is found.

## Main results

* `State.tables_of_step`: an operation that neither links nor deletes a program leaves its tables
  alone.
* `backend_lasting`: locations last on the headless backend.
* `lookups_of_life`: lookups and writes of a program, at any time of its life, against the backend.
-/

namespace ShaderBundle.Headless

variable {front : FrontEnd} {s t : State} {id : ProgramId} {events : List Event}

/-! ### Tables -/

namespace State

/-- The tables in which the names of a program are found. They are empty if there is no program. -/
def tables (program : ProgramId) (s : State) : List UniformInfo × List (Text × Location) :=
  match s.program? program with
  | none => ([], [])
  | some record => (record.uniforms, record.attributes)

/-- Where a name is found. -/
def location (kind : NameKind) (program : ProgramId) (name : Text) (s : State) : Option Location :=
  match kind with
  | .uniform => s.uniformLocation program name
  | .attrib => s.attributeLocation program name

theorem tables_congr (h : t.program? id = s.program? id) : t.tables id = s.tables id := by
  rw [tables, tables, h]

/-- Uniforms are found in the first table. -/
theorem uniformLocation_eq (program : ProgramId) (name : Text) (s : State) :
    s.uniformLocation program name =
      ((s.tables program).1.find? fun info => info.name == name).bind UniformInfo.location := by
  have huniforms : s.uniforms program = (s.tables program).1 := by
    rw [State.uniforms, tables]
    cases s.program? program <;> rfl
  rw [uniformLocation, huniforms]
  cases (s.tables program).1.find? fun info => info.name == name <;> rfl

/-- Attributes are found in the second one. -/
theorem attributeLocation_eq (program : ProgramId) (name : Text) (s : State) :
    s.attributeLocation program name = (s.tables program).2.lookup name := by
  rw [attributeLocation, tables]
  cases s.program? program <;> rfl

/-- Names are found where the tables say. -/
theorem location_congr (h : t.tables id = s.tables id) (kind : NameKind) (name : Text) :
    t.location kind id name = s.location kind id name := by
  cases kind with
  | uniform => rw [location, location, uniformLocation_eq, uniformLocation_eq, h]
  | attrib => rw [location, location, attributeLocation_eq, attributeLocation_eq, h]

theorem tables_modifyProgram (s : State) (program other : ProgramId)
    {f : ProgramRecord → ProgramRecord} (hf : ∀ record, (f record).id = record.id)
    (huniforms : ∀ record, (f record).uniforms = record.uniforms)
    (hattributes : ∀ record, (f record).attributes = record.attributes) :
    (s.modifyProgram program f).tables other = s.tables other := by
  rw [tables, tables, s.program?_modifyProgram_eq program other hf]
  cases s.program? other with
  | none => rfl
  | some record =>
    simp only [Option.map_some]
    split
    · exact Prod.ext (huniforms record) (hattributes record)
    · rfl

/-- The tables of a new program are empty, as they were. -/
theorem tables_create (s : State) (other : ProgramId) :
    s.create.2.tables other = s.tables other := by
  rw [tables, tables, program?_create]
  cases s.program? other with
  | some record => rfl
  | none => by_cases hnew : s.create.1 = other <;> simp [hnew]

theorem tables_link_of_ne (s : State) {program other : ProgramId} (hne : other ≠ program) :
    (s.link program).2.tables other = s.tables other := by
  rcases hlink : s.link program with ⟨fault | ⟨⟩, t⟩
  · rw [eq_of_link_eq_error hlink]
  · obtain ⟨record, -, rfl⟩ := link_eq_ok hlink
    exact tables_congr (s.program?_modifyProgram_of_ne (fun _ => rfl) hne)

/-- **An operation that neither links nor deletes a program leaves its tables alone.** -/
theorem tables_of_step (h : (backend front).Step s events t) (hkeeps : KeepsLink id events) :
    t.tables id = s.tables id := by
  obtain ⟨_, call, _, job, _, hop, -, rfl, rfl⟩ := h.exists_answered (backend_returns front)
  obtain ⟨hlink, hdelete⟩ := hkeeps
  cases hop with
  | compile stage source =>
    exact tables_congr (congrArg (List.find? _) (s.programs_compile front stage source))
  | createProgram => exact s.tables_create id
  | attach program stage =>
    exact s.tables_modifyProgram program id (fun _ => rfl) (fun _ => rfl) fun _ => rfl
  | detach program stage =>
    exact s.tables_modifyProgram program id (fun _ => rfl) (fun _ => rfl) fun _ => rfl
  | link program =>
    exact s.tables_link_of_ne fun heq => hlink (heq ▸ List.mem_cons_self)
  | deleteProgram program =>
    exact tables_congr (s.program?_deleteProgram_of_ne fun heq =>
      hdelete (heq ▸ List.mem_cons_self))
  | setUniform program location value =>
    exact tables_congr (congrArg (List.find? _) (s.programs_setUniform program location value))
  | _ => rfl

end State

/-- The backend answers with where a name is found. -/
theorem run_locate (kind : NameKind) (id : ProgramId) (name : Text) (s : State) :
    (kind.locate (backend front) id name).run s = (some (s.location kind id name), s) := by
  cases kind <;> rfl

/-- **Locations last on the headless backend.** -/
theorem backend_lasting (front : FrontEnd) : (backend front).Lasting := by
  intro s t events hstep id hkeeps kind name
  rw [run_locate, run_locate, State.location_congr (State.tables_of_step hstep hkeeps)]

/-! ### Lookups -/

variable {program : Program} {said : List Event} {visits : List Program.Visit}

/-- A lookup in a faithful program is answered with where the name is found now. -/
theorem run_lookup_of_faithful (h : program.Faithful (backend front) s) (kind : NameKind)
    (name : Text) (log : List Event) : ∃ later : Program, later.id = program.id ∧
      (kind.lookup (backend front).recording program name).run (log, s) =
        (some (s.location kind program.id name, later), log ++ kind.questions program name, s) := by
  rw [NameKind.run_lookup, run_locate, NameKind.questions]
  rcases hknown : (kind.answers program).get? name with _ | answer
  · exact ⟨_, kind.id_remember program name _, rfl⟩
  · have hanswer := h kind name answer hknown
    rw [run_locate, Option.some.injEq] at hanswer
    exact ⟨program, rfl, by rw [hanswer, List.append_nil]⟩

/-- A write to a faithful program goes where the name is found now, if it is found. -/
theorem run_set_of_faithful (h : program.Faithful (backend front) s) (name : Text)
    (value : UniformValue) (log : List Event) : ∃ later,
      (program.set (backend front).recording name value).run (log, s) =
        match s.uniformLocation program.id name with
        | some location => (some (true, later), log ++ NameKind.uniform.questions program name ++
            [.call (.setUniform program.id location value)],
              s.setUniform program.id location value)
        | none => (some (false, later), log ++ NameKind.uniform.questions program name, s) := by
  obtain ⟨later, hid, hlookup⟩ := run_lookup_of_faithful h .uniform name log
  refine ⟨later, ?_⟩
  change (program.locateUniform (backend front).recording name).run (log, s) =
    (some (s.uniformLocation program.id name, later), _) at hlookup
  rw [Program.set, Job.run_bind, hlookup]
  cases s.uniformLocation program.id name with
  | none => rfl
  | some location =>
    rw [← hid]
    rfl

/-- **A program answers as the backend would, all its life.** Whatever visits the program had, and
whatever was done with the backend that neither linked nor deleted it:

* a lookup is answered with where the name is found now, from memory or by a question;
* the question for a name is put once at most;
* what is known are the names that were looked up, with where they are found now, be it nowhere;
* a uniform is written if its name is found, and where it is found. -/
theorem lookups_of_life (h : Program.Life (backend front) program s said visits) (name : Text) :
    (∀ kind : NameKind,
      (∃ later, (kind.lookup (backend front).recording program name).run (said, s) =
        (some (s.location kind program.id name, later), said ++ kind.questions program name, s)) ∧
      said.count (.call (kind.call program.id name)) ≤ 1 ∧
      ∀ answer, (kind.answers program).get? name = some answer ↔
        (∃ visit ∈ visits, visit.asks = some (kind, name)) ∧
          answer = s.location kind program.id name) ∧
    ∀ value, ∃ later, (program.set (backend front).recording name value).run (said, s) =
      match s.uniformLocation program.id name with
      | some location => (some (true, later), said ++ NameKind.uniform.questions program name ++
          [.call (.setUniform program.id location value)], s.setUniform program.id location value)
      | none => (some (false, later), said ++ NameKind.uniform.questions program name, s) := by
  have hfaithful := h.faithful (backend_lasting front)
  refine ⟨fun kind => ⟨?_, ?_, fun answer => ?_⟩, fun value =>
    run_set_of_faithful hfaithful name value said⟩
  · obtain ⟨later, -, hlookup⟩ := run_lookup_of_faithful hfaithful kind name said
    exact ⟨later, hlookup⟩
  · rw [h.count kind name]
    exact Bool.toNat_le _
  -- what is known is where the name is found now
  · have hanswer : ∀ answer, (kind.answers program).get? name = some answer →
        answer = s.location kind program.id name := by
      intro answer hknown
      have hreport := hfaithful kind name answer hknown
      rw [run_locate, Option.some.injEq] at hreport
      exact hreport.symm
    rw [← h.isSome_get?_iff kind name]
    constructor
    · intro hknown
      exact ⟨Option.isSome_of_mem hknown, hanswer answer hknown⟩
    · rintro ⟨hsome, rfl⟩
      obtain ⟨known, hknown⟩ := Option.isSome_iff_exists.mp hsome
      rw [hknown, hanswer known hknown]

/-! ### A program with two names

An instance with both kinds of names, one that is found and one that is not, and with another
program built in between. -/

/-- A front end that reads an attribute off vertex stages and a vector off fragment stages. -/
def twoNames : FrontEnd := fun stage _ =>
  let types : Arena := { types := [.vector .quad .float] }
  if stage = .vertex then
    let argument : Value := { name? := some ['a'], ty := 0, binding? := some (.location 0) }
    .ok { types, entryPoints := [{ arguments := [argument] }] }
  else .ok { types, globals := [⟨some ['u'], .uniform, 0⟩] }

/-- The program of the short file, as it was built. -/
def sketch : Program where
  id := ⟨3⟩
  stages := [.vertex, .fragment]

/-- The state behind its build. -/
def sketched : State :=
  State.behind {} (Build.build (backend twoNames) Bundle.shortBundle true)

/-- The vector is written. -/
def wrote : Option (Bool × Program) × List Event × State :=
  (sketch.set (backend twoNames).recording ['u'] Way.black).run ([], sketched)

/-- The program that knows where the vector is. -/
def knowing : Program :=
  { sketch with uniforms := ⟨[(['u'], some ⟨0⟩)]⟩ }

/-- An attribute that is not there is looked up. -/
def missed : Option (Option Location × Program) × List Event × State :=
  (knowing.locateAttribute (backend twoNames).recording ['b']).run wrote.2

/-- The program that knows that too. -/
def knowingBoth : Program :=
  { knowing with attributes := ⟨[(['b'], none)]⟩ }

/-- Another program is built meanwhile. -/
def meanwhile : Option (Except BuildError Program) × List Event × State :=
  (Build.build (backend twoNames).recording Bundle.shortBundle true).run ([], missed.2.2)

theorem life_knowingBoth : Program.Life (backend twoNames) knowingBoth meanwhile.2.2 missed.2.1
    [.set ['u'] Way.black, .locateAttribute ['b']] := by
  have hbuilt : Program.Life (backend twoNames) sketch sketched [] [] :=
    .built (Prod.ext (by decide +kernel) rfl)
  have hwrote : Program.Life (backend twoNames) knowing wrote.2.2 wrote.2.1
    [.set ['u'] Way.black] :=
    hbuilt.visit (.set ['u'] Way.black)
      (show wrote = (some (true, knowing), wrote.2) from Prod.ext (by decide +kernel) rfl)
  have hmissed := hwrote.visit (.locateAttribute ['b'])
    (show missed = (some (none, knowingBoth), missed.2) from Prod.ext (by decide +kernel) rfl)
  obtain ⟨events, hrun, hpath, -⟩ :=
    (@Build.build_records _ (backend twoNames) Bundle.shortBundle true).run [] missed.2.2
  have hevents : events = meanwhile.2.1 := (congrArg (·.2.1) hrun).symm
  have hstate : meanwhile.2.2 = _ := congrArg (·.2.2) hrun
  rw [← hstate, hevents] at hpath
  exact hmissed.aside hpath ⟨by decide +kernel, by decide +kernel⟩

/-- The vector's place is known when it is written again, and it is known that there is no such
attribute. -/
theorem lookups_of_life_knowingBoth :
    Program.Life (backend twoNames) knowingBoth meanwhile.2.2 missed.2.1
      [.set ['u'] Way.black, .locateAttribute ['b']] ∧
    missed.2.1.count (.call (.uniformLocation sketch.id ['u'])) ≤ 1 ∧
    knowingBoth.attributes.get? ['b'] = some none ∧
    ∃ later t,
      (knowingBoth.set (backend twoNames).recording ['u'] Way.black).run
        (missed.2.1, meanwhile.2.2) =
      (some (true, later), missed.2.1 ++ [.call (.setUniform sketch.id ⟨0⟩ Way.black)], t) := by
  obtain ⟨hlookups, hset⟩ := lookups_of_life life_knowingBoth ['u']
  obtain ⟨hmissing, -⟩ := lookups_of_life life_knowingBoth ['b']
  have hknown := ((hmissing .attrib).2.2 none).mpr
    ⟨⟨_, List.mem_cons_of_mem _ List.mem_cons_self, rfl⟩, by decide +kernel⟩
  obtain ⟨later, hrun⟩ := hset Way.black
  have hfound : meanwhile.2.2.uniformLocation knowingBoth.id ['u'] = some ⟨0⟩ := by decide +kernel
  rw [hfound] at hrun
  exact ⟨life_knowingBoth, (hlookups .uniform).2.1, hknown, later, _, hrun⟩

end ShaderBundle.Headless
