import Mathlib.Data.List.Forall2
import ShaderBundle.Proofs.Graphics.Recording
import ShaderBundle.Proofs.Headless.Operations

/-!
# What a headless build comes to

The headless backend remembers a lot between builds: numbers handed out, live stages and programs,
values of uniforms, and the names of varyings. Only the last of these matters to a build. The
numbers are fresh, so a build finds its own stages and its own program behind them; what it comes to
is computed here from the table of varyings and the bundle, without a state.

The number of the program is left out: it counts what was handed out before.

## A function in place of a state

`outcome front table bundle` is written without numbers, stages or programs. It makes a module of
each block in order, or the log of its refusal, and asks whether the modules make a program.
`built_eq_outcome` says that this is what the backend does, in any state whose numbers in use were
handed out. Whatever is to be said about builds and their past can then be said about a function of
two arguments, and the only trace of the past is the table.

## What has to be shown of the state

A build compiles blocks, gets numbers for them, attaches these numbers to a program and links it.
That the link finds the modules that were made needs three facts: a new number finds nothing
(`State.Fits`), a stage that is live stays so while others are added (`State.Holds`), and the stages
attached to the new program are exactly those of the build, in order (`run_attach`). Whether stages
make a program does not depend on their numbers, which is why they can be compared under any.

## Main definitions

* `State.Fits`: the numbers in use were handed out.
* `modulesOf`, `outcome`: what compiling blocks and building a bundle comes to, over a table.
* `tableAfter`: the table behind a build.

## Main results

* `built_eq_outcome`, `varyings_build`: they are what the backend does.
-/

namespace ShaderBundle.Headless

variable {front : FrontEnd}

/-! ### Numbers

Stages and programs are numbered by one counter, which only grows. `Fits` is kept by every
operation, so that it holds in each state that a fresh backend can get to. -/

/-- The numbers in use were handed out. -/
structure State.Fits (s : State) : Prop where
  /-- Those of stages. -/
  stages : ∀ compiled ∈ s.stages, compiled.id.raw ≤ s.counter
  /-- Those of programs. -/
  programs : ∀ record ∈ s.programs, record.id.raw ≤ s.counter

theorem State.Fits.modifyProgram {s : State} (h : s.Fits) (program : ProgramId)
    {f : ProgramRecord → ProgramRecord} (hf : ∀ record, (f record).id = record.id) :
    (s.modifyProgram program f).Fits where
  stages := h.stages
  programs record hrecord := by
    obtain ⟨old, hold, rfl⟩ := List.mem_map.mp hrecord
    split
    · rw [hf]
      exact h.programs old hold
    · exact h.programs old hold

theorem State.Fits.deleteProgram {s : State} (h : s.Fits) (program : ProgramId) :
    (s.deleteProgram program).Fits where
  stages := h.stages
  programs record hrecord := h.programs record (List.mem_filter.mp hrecord).1

theorem backend_keeps_fits (front : FrontEnd) : (backend front).Keeps State.Fits where
  deleteStage stage := Job.keeps_change fun s h =>
    ⟨fun compiled hcompiled => h.stages compiled (List.mem_filter.mp hcompiled).1, h.programs⟩
  createProgram := Job.keeps_step fun s h => by
    refine ⟨fun compiled hcompiled => Nat.le_succ_of_le (h.stages compiled hcompiled), ?_⟩
    intro record hrecord
    rcases List.mem_append.mp hrecord with hold | hnew
    · exact Nat.le_succ_of_le (h.programs record hold)
    · obtain rfl := List.mem_singleton.mp hnew
      exact Nat.le_refl _
  attach program stage := Job.keeps_change fun s h => h.modifyProgram program fun _ => rfl
  detach program stage := Job.keeps_change fun s h => h.modifyProgram program fun _ => rfl
  link program := Job.keeps_step fun s h => by
    rcases s.link_cases program with ⟨_, hlink⟩ | ⟨_, _, hlink⟩
    · rwa [hlink]
    · rw [hlink]
      exact h.modifyProgram program fun _ => rfl
  validate program := Job.keeps_step fun s h => h
  deleteProgram program := Job.keeps_change fun s h => h.deleteProgram program

/-- Nothing but compiling changes the table of varyings. -/
theorem backend_keeps_varyings (front : FrontEnd) (table : Varyings) :
    (backend front).Keeps fun s => s.varyings = table where
  deleteStage _ := Job.keeps_change fun _ h => h
  createProgram := Job.keeps_step fun _ h => h
  attach _ _ := Job.keeps_change fun _ h => h
  detach _ _ := Job.keeps_change fun _ h => h
  link program := Job.keeps_step fun s h => by
    rcases s.link_cases program with ⟨_, hlink⟩ | ⟨_, _, hlink⟩
    · rwa [hlink]
    · rwa [hlink]
  validate _ := Job.keeps_step fun _ h => h
  deleteProgram _ := Job.keeps_change fun _ h => h

/-! ### Without a state

The definitions follow the build: a block, several blocks, linking, all together. The value `none`
stands for a crash, as it does for a job. -/

/-- The diagnostics of a log, unless a number in it is too large. -/
def diagnosis? (block : Block) (log : Text) : Option (List Diagnostic) :=
  match Diagnostic.remapBlock? block log with
  | none => none
  | some [] => some [Build.silent]
  | some diagnostics => some diagnostics

/-- The error for a refused block, unless there is a crash. -/
def refusal? {α : Type} (block : Block) (log : Text) : Option (Except BuildError α) :=
  (diagnosis? block log).map fun diagnostics => .error (.compile block.stage diagnostics)

/-- The module of a block, or the log of its refusal. -/
def moduleOf (front : FrontEnd) (table : Varyings) (block : Block) : Except Text Module :=
  if State.supports block.stage then
    front block.stage (assign table block.stage (liftVersion block.source)).1
  else .error (State.unsupportedLog block.stage)

/-- The table behind a block. -/
def tableBehind (table : Varyings) (block : Block) : Varyings :=
  if State.supports block.stage then (assign table block.stage (liftVersion block.source)).2
  else table

/-- What compiling blocks in order comes to. -/
def modulesOf (front : FrontEnd) : Varyings → List Block →
    Option (Except BuildError (List (Stage × Module)))
  | _, [] => some (.ok [])
  | table, block :: rest =>
    match moduleOf front table block with
    | .error log => refusal? block log
    | .ok module =>
      (modulesOf front (tableBehind table block) rest).map
        (Except.map fun found => (block.stage, module) :: found)

/-- All blocks are accepted if the first one is, and the others are behind it. -/
theorem modulesOf_cons_eq_ok_iff {table : Varyings} {block : Block} {rest : List Block}
    {found : List (Stage × Module)} :
    modulesOf front table (block :: rest) = some (.ok found) ↔
      ∃ module others, moduleOf front table block = .ok module ∧
        modulesOf front (tableBehind table block) rest = some (.ok others) ∧
        found = (block.stage, module) :: others := by
  rw [modulesOf]
  cases moduleOf front table block with
  | error log => simp [refusal?]
  | ok module =>
    rcases modulesOf front (tableBehind table block) rest with _ | _ | others
    · simp
    · simp [Except.map]
    · simp [Except.map, eq_comm]

/-- A refusal is that of the first block, or of one behind it. -/
theorem modulesOf_cons_eq_error_iff {table : Varyings} {block : Block} {rest : List Block}
    {e : BuildError} :
    modulesOf front table (block :: rest) = some (.error e) ↔
      (∃ log diagnostics, moduleOf front table block = .error log ∧
        diagnosis? block log = some diagnostics ∧ e = .compile block.stage diagnostics) ∨
      ∃ module, moduleOf front table block = .ok module ∧
        modulesOf front (tableBehind table block) rest = some (.error e) := by
  rw [modulesOf]
  cases moduleOf front table block with
  | error log => cases hlog : diagnosis? block log <;> simp [refusal?, hlog, eq_comm]
  | ok module =>
    rcases modulesOf front (tableBehind table block) rest with _ | e' | others
    · simp
    · simp [Except.map]
    · simp [Except.map]

/-- The table behind blocks that are compiled in order, up to the first refusal. -/
def tableAfter (front : FrontEnd) : Varyings → List Block → Varyings
  | table, [] => table
  | table, block :: rest =>
    match moduleOf front table block with
    | .error _ => tableBehind table block
    | .ok _ => tableAfter front (tableBehind table block) rest

/-- A stage under a number. -/
def numbered (id : StageId) (found : Stage × Module) : Compiled :=
  { id, stage := found.1, module := found.2 }

/-- What linking modules comes to. The numbers of the stages do not matter. -/
def linked (found : List (Stage × Module)) : Except BuildError (List Stage) :=
  match checkStages (found.map (numbered ⟨0⟩)) with
  | .ok () => .ok (found.map Prod.fst)
  | .error fault => .error (.link fault.message)

/-- What building a bundle comes to: the stages of its program, or an error, or a crash. -/
def outcome (front : FrontEnd) (table : Varyings) (bundle : Bundle) :
    Option (Except BuildError (List Stage)) :=
  match modulesOf front table bundle.blocks with
  | none => none
  | some (.error e) => some (.error e)
  | some (.ok found) => some (linked found)

/-- What a build comes to in a state, apart from the number of the program. -/
def built (front : FrontEnd) (bundle : Bundle) (validate : Bool) (s : State) :
    Option (Except BuildError (List Stage)) :=
  ((Build.build (backend front) bundle validate).run s).1.map (Except.map Program.stages)

/-! ### Compiling -/

/-- The state behind a compiled block. -/
def State.withStage (s : State) (table : Varyings) (found : Stage × Module) : State :=
  { s with
    varyings := table
    counter := s.counter + 1
    stages := s.stages ++ [numbered ⟨s.counter + 1⟩ found] }

theorem compile_eq (block : Block) (s : State) :
    State.compile front block.stage block.source s =
      match moduleOf front s.varyings block with
      | .error log => (.error log, { s with varyings := tableBehind s.varyings block })
      | .ok module => (.ok ⟨s.counter + 1⟩,
          s.withStage (tableBehind s.varyings block) (block.stage, module)) := by
  rw [State.compile, moduleOf, tableBehind]
  split
  · simp only
    cases front block.stage (assign s.varyings block.stage (liftVersion block.source)).1 <;> rfl
  · rfl

/-- What compiling one block does. -/
theorem run_compileBlock (block : Block) (s : State) :
    (Build.compileBlock (backend front) block).run s =
      match moduleOf front s.varyings block with
      | .error log => (refusal? block log, { s with varyings := tableBehind s.varyings block })
      | .ok module => (some (.ok ⟨block.stage, ⟨s.counter + 1⟩⟩),
          s.withStage (tableBehind s.varyings block) (block.stage, module)) := by
  have hcompile : ((backend front).compile block.stage block.source).run s =
      (some (State.compile front block.stage block.source s).1,
        (State.compile front block.stage block.source s).2) := rfl
  rw [Build.compileBlock, Job.run_bind, hcompile, compile_eq]
  cases moduleOf front s.varyings block with
  | ok module => rfl
  | error log =>
    simp only [Job.run_bind, Build.run_diagnose, refusal?, diagnosis?]
    rcases Diagnostic.remapBlock? block log with _ | _ | ⟨diagnostic, diagnostics⟩ <;> rfl

/-! ### Live stages

`Holds` relates the compiled stages of a build to the modules that were made of its blocks, in
order. It is kept up along the blocks, and is what linking starts from. -/

/-- The compiled stages are live, with these modules. -/
def State.Holds (s : State) (compiled : List ShaderBundle.Compiled)
    (found : List (Stage × Module)) :
    Prop :=
  List.Forall₂ (fun c m => c.stage = m.1 ∧ s.stage? c.id = some (numbered c.id m)) compiled found

/-- A new number finds nothing. -/
theorem State.Fits.stage?_new {s : State} (h : s.Fits) : s.stage? ⟨s.counter + 1⟩ = none := by
  rw [State.stage?, List.find?_eq_none]
  intro compiled hcompiled heq
  have hle := h.stages compiled hcompiled
  rw [of_decide_eq_true heq] at hle
  exact absurd hle (Nat.not_succ_le_self _)

theorem State.Fits.program?_new {s : State} (h : s.Fits) : s.program? ⟨s.counter + 1⟩ = none := by
  rw [State.program?, List.find?_eq_none]
  intro record hrecord heq
  have hle := h.programs record hrecord
  rw [of_decide_eq_true heq] at hle
  exact absurd hle (Nat.not_succ_le_self _)

theorem State.Fits.withStage {s : State} (h : s.Fits) (table : Varyings) (found : Stage × Module) :
    (s.withStage table found).Fits where
  stages compiled hcompiled := by
    rcases List.mem_append.mp hcompiled with hold | hnew
    · exact Nat.le_succ_of_le (h.stages compiled hold)
    · obtain rfl := List.mem_singleton.mp hnew
      exact Nat.le_refl _
  programs record hrecord := Nat.le_succ_of_le (h.programs record hrecord)

theorem compile_keeps_fits (front : FrontEnd) (stage : Stage) (source : Text) :
    ((backend front).compile stage source).Keeps State.Fits := by
  refine Job.keeps_step fun s h => ?_
  obtain ⟨varyings, hrefused | ⟨module, haccepted⟩⟩ := State.compile_cases front stage source s
  · rw [hrefused]
    exact ⟨h.stages, h.programs⟩
  · rw [haccepted]
    exact h.withStage varyings (stage, module)

/-- The stages that were live stay so, and the new one is found under the new number. -/
theorem State.Holds.withStage {s : State} {compiled : List ShaderBundle.Compiled}
    {found : List (Stage × Module)} (h : s.Holds compiled found) (hfits : s.Fits) (table : Varyings)
    (new : Stage × Module) :
    (s.withStage table new).Holds (compiled ++ [⟨new.1, ⟨s.counter + 1⟩⟩]) (found ++ [new]) := by
  have hold : ∀ id, (s.withStage table new).stage? id =
      (s.stage? id).or (if (⟨s.counter + 1⟩ : StageId) = id then
        some (numbered ⟨s.counter + 1⟩ new) else none) := by
    intro id
    rw [State.stage?, State.withStage, List.find?_append, State.stage?]
    congr 1
    rw [List.find?_singleton]
    by_cases hid : (⟨s.counter + 1⟩ : StageId) = id
    · simp [numbered, hid]
    · simp [numbered, hid]
  have hlive : (s.withStage table new).Holds compiled found := by
    refine h.imp fun c m hc => ⟨hc.1, ?_⟩
    rw [hold, hc.2, Option.some_or]
  refine List.rel_append hlive (.cons ⟨rfl, ?_⟩ .nil)
  rw [hold, hfits.stage?_new, if_pos rfl, Option.none_or]

/-- Every operation of the backend comes to an end. -/
theorem backend_returns (front : FrontEnd) : (backend front).Returns := by
  intro α call replies job h
  cases h with
  | compile | createProgram | link | validate => exact Job.finishes_step _
  | uniformLocation | attributeLocation | activeUniforms => exact Job.finishes_step _
  | _ => exact Job.finishes_change _

theorem backend_steady (front : FrontEnd) : (backend front).Steady :=
  Backend.Returns.steady (backend_returns front)

/-- **Compiling blocks comes to their modules, and leaves the stages live.** -/
theorem run_compileBlocks (front : FrontEnd) {s : State} (hfits : s.Fits)
    {compiled : List ShaderBundle.Compiled} {done : List (Stage × Module)}
    (h : s.Holds compiled done) (blocks : List Block) :
    match modulesOf front s.varyings blocks with
    | none => ((Build.compileBlocks (backend front) compiled blocks).run s).1 = none
    | some (.error e) =>
      ((Build.compileBlocks (backend front) compiled blocks).run s).1 = some (.error e)
    | some (.ok found) => ∃ all t,
        (Build.compileBlocks (backend front) compiled blocks).run s = (some (.ok all), t) ∧
          t.Fits ∧ t.Holds all (done ++ found) := by
  induction blocks generalizing s compiled done with
  | nil => exact ⟨compiled, s, rfl, hfits, by rwa [List.append_nil]⟩
  | cons block rest ih =>
    rw [Build.compileBlocks, Job.run_bind, run_compileBlock, modulesOf]
    cases moduleOf front s.varyings block with
    -- The block is refused. The log is read or it is not, and the stages so far are deleted.
    | error log =>
      simp only [refusal?]
      cases diagnosis? block log with
      | none => rfl
      | some diagnostics =>
        simp only [Option.map_some]
        rw [(Build.release_finishes (backend_steady front) compiled).run_bind]
        rfl
    -- The block is accepted. It is live in the state in which the others are compiled.
    | ok module =>
      have hrest := ih (hfits.withStage (tableBehind s.varyings block) (block.stage, module))
        (h.withStage hfits (tableBehind s.varyings block) (block.stage, module))
      simp only [State.withStage] at hrest ⊢
      cases hmodules : modulesOf front (tableBehind s.varyings block) rest with
      | none =>
        rw [hmodules] at hrest
        exact hrest
      | some answer =>
        rw [hmodules] at hrest
        cases answer with
        | error e => exact hrest
        | ok found =>
          obtain ⟨all, t, hrun, ht, hholds⟩ := hrest
          refine ⟨all, t, hrun, ht, ?_⟩
          rwa [List.append_assoc, List.singleton_append] at hholds

/-! ### Linking

The new program has nothing attached, and the build attaches its stages one by one. What is looked
at in linking are modules, found under the attached numbers. -/

theorem firstOf?_numbered (stage : Stage) (stages : List Compiled) :
    firstOf? stage ((stages.map fun c => (c.stage, c.module)).map (numbered ⟨0⟩)) =
      firstOf? stage stages := by
  rw [firstOf?, firstOf?, List.find?_map, List.find?_map, Option.map_map, Option.map_map]
  rfl

/-- Whether stages make a program does not depend on their numbers. -/
theorem checkStages_numbered (stages : List Compiled) :
    checkStages ((stages.map fun c => (c.stage, c.module)).map (numbered ⟨0⟩)) =
      checkStages stages := by
  rw [checkStages, checkStages, firstOf?_numbered, firstOf?_numbered, firstOf?_numbered,
    List.length_map, List.length_map]

/-- The new program is found, and nothing is attached to it. -/
theorem State.Fits.program?_create {s : State} (h : s.Fits) :
    s.create.2.program? s.create.1 = some { id := s.create.1 } := by
  have hold := h.program?_new
  rw [State.program?] at hold
  rw [State.program?, State.create, List.find?_append, hold, Option.none_or]
  simp

/-- Attaching stages in order leaves them attached in order. -/
theorem run_attach (front : FrontEnd) {program : ProgramId}
    (compiled : List ShaderBundle.Compiled) {s : State}
    {record : ProgramRecord} (h : s.program? program = some record) :
    ∃ t, (Build.attach (backend front) program compiled).run s = (some (), t) ∧
      t.stages = s.stages ∧ t.program? program =
        some { record with
          attached := record.attached ++ compiled.map ShaderBundle.Compiled.id } := by
  induction compiled generalizing s record with
  | nil => exact ⟨s, rfl, rfl, by rw [h, List.map_nil, List.append_nil]⟩
  | cons c rest ih =>
    obtain ⟨t, hrun, hstages, hprogram⟩ := ih (State.program?_modifyProgram
      (f := fun record => { record with attached := record.attached ++ [c.id] }) (fun _ => rfl) h)
    refine ⟨t, hrun, hstages, ?_⟩
    rw [hprogram, List.append_assoc, List.map_cons, List.singleton_append]

/-- Looking the stages up finds their modules. -/
theorem State.Holds.filterMap {s : State} {compiled : List ShaderBundle.Compiled}
    {found : List (Stage × Module)} (h : s.Holds compiled found) :
    ((compiled.map ShaderBundle.Compiled.id).filterMap s.stage?).map
      (fun c => (c.stage, c.module)) = found := by
  induction h with
  | nil => rfl
  | cons hc _ ih =>
    rw [List.map_cons, List.filterMap_cons_some hc.2, List.map_cons, ih]
    rfl

theorem State.Holds.map_stage {s : State} {compiled : List ShaderBundle.Compiled}
    {found : List (Stage × Module)} (h : s.Holds compiled found) :
    compiled.map ShaderBundle.Compiled.stage = found.map Prod.fst := by
  induction h with
  | nil => rfl
  | cons hc _ ih => rw [List.map_cons, List.map_cons, hc.1, ih]

/-- **Linking live stages comes to what linking their modules comes to.** -/
theorem link_eq_linked {s : State} (hfits : s.Fits) {compiled : List ShaderBundle.Compiled}
    {found : List (Stage × Module)} (h : s.Holds compiled found) (validate : Bool) :
    ((Build.link (backend front) compiled validate).run s).1.map (Except.map Program.stages) =
      some (linked found) := by
  obtain ⟨t, hattach, hstages, hprogram⟩ :=
    run_attach front compiled hfits.program?_create
  -- creating a program and attaching stages leaves the stages alone
  have hholds : t.Holds compiled found := by
    refine h.imp fun c m hc => ⟨hc.1, ?_⟩
    rw [← hc.2, State.stage?, State.stage?, hstages]
    rfl
  -- so what is checked are the modules of the blocks
  have hcheck : checkStages
      ((([] : List StageId) ++ compiled.map ShaderBundle.Compiled.id).filterMap t.stage?) =
        checkStages (found.map (numbered ⟨0⟩)) := by
    rw [List.nil_append, ← checkStages_numbered, hholds.filterMap]
  have hcreate : (backend front).createProgram.run s = (some (.ok s.create.1), s.create.2) := rfl
  have hlink : ((backend front).link s.create.1).run t =
      (some (worded (t.link s.create.1).1), (t.link s.create.1).2) := rfl
  rw [Build.link, Job.run_bind, hcreate]
  simp only
  rw [Job.run_bind, hattach]
  simp only
  rw [Job.run_bind, hlink, State.link, hprogram, linked]
  simp only [hcheck]
  cases checkStages (found.map (numbered ⟨0⟩)) with
  -- Refused: what is cleaned up behind it does not change the answer.
  | error fault =>
    simp only [worded]
    rw [(Build.detach_finishes (backend_steady front) _ compiled).run_bind,
      (Build.release_finishes (backend_steady front) compiled).run_bind]
    rfl
  -- Accepted: neither does advice.
  | ok _ =>
    simp only [worded]
    rw [(Build.consume_finishes (backend_steady front) _ compiled).run_bind,
      (Build.advise_finishes (fun program => backend_returns front (.validate program)) _
        validate).run_bind]
    simp only [Job.run_pure, Option.map_some, Except.map, hholds.map_stage]

/-! ### Building

The two halves put together, and then the table: compiling extends it, and nothing behind compiling
does. -/

/-- **What a build comes to depends on the table of varyings only.** -/
theorem built_eq_outcome {s : State} (hfits : s.Fits) (bundle : Bundle) (validate : Bool) :
    built front bundle validate s = outcome front s.varyings bundle := by
  have hcompile := run_compileBlocks front hfits
    (List.Forall₂.nil : s.Holds [] []) bundle.blocks
  rw [built, Build.build, Job.run_bind, outcome]
  cases hmodules : modulesOf front s.varyings bundle.blocks with
  | none =>
    rw [hmodules] at hcompile
    rcases hrun : (Build.compileBlocks (backend front) [] bundle.blocks).run s with ⟨answer, t⟩
    rw [hrun] at hcompile
    obtain rfl : answer = none := hcompile
    rfl
  | some answer =>
    rw [hmodules] at hcompile
    cases answer with
    | error e =>
      rcases hrun : (Build.compileBlocks (backend front) [] bundle.blocks).run s with ⟨answer, t⟩
      rw [hrun] at hcompile
      obtain rfl : answer = some (.error e) := hcompile
      rfl
    | ok found =>
      obtain ⟨all, t, hrun, ht, hholds⟩ := hcompile
      rw [hrun]
      exact link_eq_linked ht hholds validate

theorem varyings_compileBlocks (front : FrontEnd) (compiled : List ShaderBundle.Compiled)
    (blocks : List Block) (s : State) :
    ((Build.compileBlocks (backend front) compiled blocks).run s).2.varyings =
      tableAfter front s.varyings blocks := by
  induction blocks generalizing s compiled with
  | nil => rfl
  | cons block rest ih =>
    rw [Build.compileBlocks, Job.run_bind, run_compileBlock, tableAfter]
    cases moduleOf front s.varyings block with
    | error log =>
      simp only [refusal?]
      cases diagnosis? block log with
      | none => rfl
      | some diagnostics =>
        simp only [Option.map_some]
        rw [(Build.release_finishes (backend_steady front) compiled).run_bind]
        exact Build.release_keeps (backend_keeps_varyings front (tableBehind s.varyings block))
          compiled _ rfl
    | ok module => exact ih _ _

/-- **The table behind a build is that behind its blocks.** -/
theorem varyings_build (bundle : Bundle) (validate : Bool) (s : State) :
    ((Build.build (backend front) bundle validate).run s).2.varyings =
      tableAfter front s.varyings bundle.blocks := by
  have hcompile := varyings_compileBlocks front [] bundle.blocks s
  rw [Build.build, Job.run_bind]
  rcases hrun : (Build.compileBlocks (backend front) [] bundle.blocks).run s with ⟨_ | answer, t⟩
  · rw [hrun] at hcompile
    exact hcompile
  · rw [hrun] at hcompile
    cases answer with
    | error e => exact hcompile
    | ok all =>
      exact Build.link_keeps (backend_keeps_varyings front _) all validate t hcompile

theorem State.Fits.build {s : State} (h : s.Fits) (bundle : Bundle) (validate : Bool) :
    ((Build.build (backend front) bundle validate).run s).2.Fits :=
  Build.build_keeps (backend_keeps_fits front) (compile_keeps_fits front) bundle validate s h

end ShaderBundle.Headless
