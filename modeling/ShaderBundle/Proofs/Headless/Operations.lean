import ShaderBundle.Headless.Backend

/-!
# What the headless operations do

Compiling, linking and writing a uniform each have several ways through them. They are told apart
here, once: what later modules say about states follows from the cases, without another look at how
an operation comes to them. The other operations have one way through, and their definitions say
what they do.

The second half is about records of programs. Looking a program up behind an operation finds the
record that was there before, unless the operation is about that program.

## Which components change

Every operation changes one or two components of a state and leaves the others alone. A case of an
operation is therefore stated as an equation for the whole state behind it, made of the state
before; what stays can be read off by reducing. No statement lists what stays.

## Main results

* `State.compile_cases`, `State.link_cases`, `State.setUniform_cases`: the ways through.
* `State.program?_modifyProgram_eq`, `State.program?_create`, `State.program?_deleteProgram_of_ne`:
  looking up programs.
-/

namespace ShaderBundle.Headless

namespace State

variable {s t : State}

/-! ### Ways through an operation -/

/-- Compiling fills in names of varyings. If the source is accepted, it also adds a stage, under the
next number. -/
theorem compile_cases (front : FrontEnd) (stage : Stage) (source : Text) (s : State) :
    ∃ varyings, (s.compile front stage source).2 = { s with varyings } ∨
      ∃ module, (s.compile front stage source).2 =
        { s with
          varyings
          counter := s.counter + 1
          stages := s.stages ++ [⟨⟨s.counter + 1⟩, stage, module⟩] } := by
  rw [compile]
  split
  case isTrue =>
    simp only []
    split
    case h_1 => exact ⟨_, .inl rfl⟩
    case h_2 module _ => exact ⟨_, .inr ⟨module, rfl⟩⟩
  case isFalse => exact ⟨s.varyings, .inl rfl⟩

/-- A link is refused, and everything is as it was, or it is one of a program that exists, and
replaces what is listed of it. -/
theorem link_cases (s : State) (program : ProgramId) :
    (∃ fault, s.link program = (.error fault, s)) ∨
      ∃ record, s.program? program = some record ∧
        s.link program = (.ok (), s.modifyProgram program fun r =>
          { r with
            uniforms := listUniforms (record.attached.filterMap s.stage?)
            attributes := listAttributes (record.attached.filterMap s.stage?)
            linked := true }) := by
  rw [link]
  split
  case h_1 => exact .inl ⟨_, rfl⟩
  case h_2 record hrecord =>
    simp only []
    split
    case h_1 fault _ => exact .inl ⟨fault, rfl⟩
    case h_2 => exact .inr ⟨record, hrecord, rfl⟩

/-- An accepted link is one of a program that exists, and replaces what is listed of it. -/
theorem link_eq_ok {program : ProgramId} (h : s.link program = (.ok (), t)) :
    ∃ record, s.program? program = some record ∧ t = s.modifyProgram program fun r =>
      { r with
        uniforms := listUniforms (record.attached.filterMap s.stage?)
        attributes := listAttributes (record.attached.filterMap s.stage?)
        linked := true } := by
  rcases s.link_cases program with ⟨fault, hlink⟩ | ⟨record, hrecord, hlink⟩
  · cases hlink.symm.trans h
  · exact ⟨record, hrecord, congrArg Prod.snd (h.symm.trans hlink)⟩

/-- A link that is refused leaves everything as it was. -/
theorem eq_of_link_eq_error {program : ProgramId} {fault : LinkFault}
    (h : s.link program = (.error fault, t)) : t = s := by
  rcases s.link_cases program with ⟨_, hlink⟩ | ⟨_, _, hlink⟩
  · exact congrArg Prod.snd (h.symm.trans hlink)
  · cases hlink.symm.trans h

/-- A value is written to a uniform that keeps it, or it is passed over. -/
theorem setUniform_cases (s : State) (program : ProgramId) (location : Location)
    (value : UniformValue) :
    s.setUniform program location value = s ∨
      (∃ kind, s.kindAt? program location = some kind ∧ keeps kind value = true) ∧
        s.setUniform program location value = s.store program location value := by
  rw [setUniform]
  split
  case h_1 => exact .inl rfl
  case h_2 kind hkind =>
    split
    case isTrue hkeeps => exact .inr ⟨⟨kind, hkind, hkeeps⟩, rfl⟩
    case isFalse => exact .inl rfl

/-! ### Records of programs -/

theorem programs_compile (front : FrontEnd) (stage : Stage) (source : Text) (s : State) :
    (s.compile front stage source).2.programs = s.programs := by
  obtain ⟨_, hrefused | ⟨_, haccepted⟩⟩ := compile_cases front stage source s
  · rw [hrefused]
  · rw [haccepted]

theorem programs_setUniform (program : ProgramId) (location : Location) (value : UniformValue)
    (s : State) : (s.setUniform program location value).programs = s.programs := by
  rcases s.setUniform_cases program location value with hsame | ⟨-, hstored⟩
  · rw [hsame]
  · rw [hstored]
    rfl

/-- A change to a program is seen in its record and in no other one. -/
theorem program?_modifyProgram_eq (s : State) (program other : ProgramId)
    {f : ProgramRecord → ProgramRecord} (hf : ∀ record, (f record).id = record.id) :
    (s.modifyProgram program f).program? other =
      (s.program? other).map fun record => if other = program then f record else record := by
  have hsame : ((fun r : ProgramRecord => decide (r.id = other)) ∘
      fun r => if r.id = program then f r else r) = fun r => decide (r.id = other) := by
    funext r
    simp only [Function.comp_apply]
    split
    · rw [hf]
    · rfl
  rw [program?, modifyProgram, List.find?_map, hsame]
  change (s.program? other).map _ = _
  refine Option.map_congr fun record hrecord => ?_
  rw [program?] at hrecord
  have hid : record.id = other := by simpa using List.find?_some hrecord
  rw [hid]

theorem program?_modifyProgram {program : ProgramId} {f : ProgramRecord → ProgramRecord}
    (hf : ∀ record, (f record).id = record.id) {record : ProgramRecord}
    (h : s.program? program = some record) :
    (s.modifyProgram program f).program? program = some (f record) := by
  rw [s.program?_modifyProgram_eq program program hf, h, Option.map_some, if_pos rfl]

theorem program?_modifyProgram_of_ne (s : State) {program other : ProgramId}
    {f : ProgramRecord → ProgramRecord} (hf : ∀ record, (f record).id = record.id)
    (hne : other ≠ program) : (s.modifyProgram program f).program? other = s.program? other := by
  rw [s.program?_modifyProgram_eq program other hf]
  simp [hne]

theorem isSome_program?_modifyProgram (s : State) (program other : ProgramId)
    {f : ProgramRecord → ProgramRecord} (hf : ∀ record, (f record).id = record.id) :
    ((s.modifyProgram program f).program? other).isSome = (s.program? other).isSome := by
  rw [s.program?_modifyProgram_eq program other hf, Option.isSome_map]

theorem program?_create (s : State) (other : ProgramId) :
    s.create.2.program? other = (s.program? other).or
      (if s.create.1 = other then some { id := s.create.1 } else none) := by
  rw [program?, create, List.find?_append, List.find?_singleton, program?]
  simp

theorem program?_deleteProgram_of_ne (s : State) {program other : ProgramId}
    (hne : other ≠ program) : (s.deleteProgram program).program? other = s.program? other := by
  change (s.programs.filter fun record => record.id ≠ program).find? _ = s.programs.find? _
  rw [List.find?_filter]
  congr 1
  funext record
  by_cases hid : record.id = other
  · simp [hid, hne]
  · simp [hid]

end State

end ShaderBundle.Headless
