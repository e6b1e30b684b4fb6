import ShaderBundle.Command.Check
import ShaderBundle.Proofs.Headless.History

/-!
# Checking files one after another

One headless backend compiles all files of a run. Between two files its thread waits for nothing,
and its state is one that builds and destructions lead to. So the report on a file is the one it
would get alone, if its blocks declare no varyings to lay out; otherwise the files before it may
show.

## The front end is a parameter

What a compiler makes of a source is no part of this: a front end is any function from a stage and a
source to a module or a log. The workshop, the reports and everything that is said of them have it
as a parameter, and the statements hold for each. A front end that sees a source sees what layouts
were filled in, and those of varyings depend on the names that earlier files have left in the table.
For a bundle without such varyings no front end can tell its past; for one with them it is said
which front ends can, by giving one.

## One front end for examples

`layoutsOnly` reads nothing but the locations off a source, and takes everything else for correct.
That is enough to make a program link or not, according to where its varyings are, and little enough
that a run is evaluated by the kernel. The examples at the end are runs over it, on files of a few
lines.

## What a report has in it

A report on a file has its stages, an error and the problems behind it. Files that cannot be read or
taken apart never come to the workshop, and have the same report always; for the rest the report is
made from the answer to a trial, and a trial is a build whose program is destroyed at once.

## Main definitions

* `Workshop.Used`: the workshop was used to check files, and for nothing else.
* `UnvaryingFile`: no block of a file that comes to be compiled declares a varying without a layout.
* `reports`, `reportAlone`: the reports on some files, and on one file alone.

## Main results

* `reports_of_unvarying`: behind any files, such a file gets the report that it gets alone.
* `independent_of_past`: for which bundles nothing shows of what was built before.
-/

namespace ShaderBundle.Command

open Headless (FrontEnd Reachable HistoryFree HistoryFreeSuccess Unvarying built built_eq_outcome
  outcome outcome_of_unvarying historyFree_iff historyFreeSuccess_iff)

variable {front : FrontEnd}

/-! ### One build

The worker of the workshop has a queue like any graphics thread. It is empty whenever a file is
checked, so the build comes at once. -/

/-- Nobody waits for a job, and the state of the backend is one that builds lead to. -/
structure Workshop.Used (front : FrontEnd) (workshop : Workshop) : Prop where
  /-- No job is queued. -/
  queue : workshop.worker.queue = []
  /-- Builds and destructions lead to the state. -/
  device : Reachable front workshop.worker.device

theorem used_new (front : FrontEnd) (validate : Bool) : Workshop.Used front { validate } where
  queue := rfl
  device := .fresh

/-- The answer to a trial, from what the build comes to. -/
def trialAnswer : Option (Except BuildError (List Stage)) → Except BuildError Unit
  | none => .error (.thread .unavailable)
  | some (.error error) => .error error
  | some (.ok _) => .ok ()

/-- A trial is a build, and the program is destroyed at once. -/
theorem tryBuild_eq (front : FrontEnd) {workshop : Workshop} (h : workshop.worker.queue = [])
    (bundle : Bundle) :
    (tryBuild front bundle workshop).1 =
        trialAnswer (built front bundle workshop.validate workshop.worker.device) ∧
      (tryBuild front bundle workshop).2.worker.queue = [] ∧
      ((tryBuild front bundle workshop).2.worker.device =
          ((Build.build (Headless.backend front) bundle workshop.validate).run
            workshop.worker.device).2 ∨
        ∃ program, (tryBuild front bundle workshop).2.worker.device =
          ((Build.build (Headless.backend front) bundle workshop.validate).run
            workshop.worker.device).2.deleteProgram program) := by
  -- Nothing waits, so the build begins in the state that the workshop has.
  have hdevice : workshop.worker.drain.device = workshop.worker.device := by
    rw [Worker.drain, h, List.foldl_nil]
  have hbuilt : built front bundle workshop.validate workshop.worker.device =
      ((Build.build (Headless.backend front) bundle workshop.validate).run
        workshop.worker.device).1.map (Except.map Program.stages) := rfl
  rw [tryBuild, hbuilt]
  simp only [Worker.call, hdevice, Job.run_bind]
  rcases (Build.build (Headless.backend front) bundle workshop.validate).run
    workshop.worker.device with ⟨_ | error | program, s⟩
  · exact ⟨rfl, rfl, .inl rfl⟩
  · exact ⟨rfl, rfl, .inl rfl⟩
  -- A program was made, and it is destroyed.
  · exact ⟨rfl, rfl, .inr ⟨program.id, rfl⟩⟩

section Split

variable {options : SplitOptions} {file text : Text} {bundle : Bundle} {workshop : Workshop}

theorem Workshop.Used.tryBuild (h : workshop.Used front) {name : Text}
    (hsplit : Bundle.split options name text = .ok bundle) :
    (tryBuild front bundle workshop).2.Used front := by
  obtain ⟨-, hqueue, hdevice⟩ := tryBuild_eq front h.queue bundle
  have hbuild := h.device.build hsplit workshop.validate
  refine ⟨hqueue, ?_⟩
  rcases hdevice with hdevice | ⟨program, hdevice⟩
  · rw [hdevice]
    exact hbuild
  · rw [hdevice]
    exact hbuild.destroy program

/-- The report on a bundle without varyings is the same from all workshops in use. -/
theorem tryBuild_of_unvarying {workshop' : Workshop} (h : workshop.Used front)
    (h' : workshop'.Used front) (hbundle : Unvarying bundle) :
    (tryBuild front bundle workshop).1 = (tryBuild front bundle workshop').1 := by
  rw [(tryBuild_eq front h.queue bundle).1, (tryBuild_eq front h'.queue bundle).1,
    built_eq_outcome h.device.fits, built_eq_outcome h'.device.fits,
    outcome_of_unvarying hbundle workshop.worker.device.varyings
      workshop'.worker.device.varyings]

/-- The bundle of a file. -/
def bundleOf (options : SplitOptions) (file text : Text) : Except SplitError Bundle :=
  Bundle.split options ((Path.stem? file).getD "shader".toList) text

/-- What checking a text reports, and the workshop behind it. -/
theorem checkText_eq (front : FrontEnd) (options : SplitOptions) (file text : Text)
    (workshop : Workshop) :
    checkText front options file text (some workshop) =
      match bundleOf options file text with
      | .error error =>
        ({ file, error := some error.message.toList, problems := problemsOfSplit error },
          some workshop)
      | .ok bundle =>
        (match (tryBuild front bundle workshop).1 with
          | .ok () => { file, stages := bundle.stages }
          | .error error =>
            { file, stages := bundle.stages, error := some error.message,
              problems := problemsOfBuild error },
          some (tryBuild front bundle workshop).2) := by
  rw [checkText, ← bundleOf]
  cases bundleOf options file text with
  | error error => rfl
  | ok bundle => rcases htry : tryBuild front bundle workshop with ⟨_ | _, next⟩ <;> simp [htry]

theorem Workshop.Used.checkText (h : workshop.Used front) :
    ∃ next, (checkText front options file text (some workshop)).2 = some next ∧
      next.Used front := by
  rw [checkText_eq]
  cases hsplit : bundleOf options file text with
  | error error => exact ⟨workshop, rfl, h⟩
  | ok bundle => exact ⟨(Command.tryBuild front bundle workshop).2, rfl, h.tryBuild hsplit⟩

end Split

/-! ### One file

A file is read and taken apart before the workshop comes in. Whether it can be is a matter of the
disk and the options. -/

/-- No block of the file that comes to be compiled declares a varying without a layout. -/
def UnvaryingFile (disk : Disk Id) (options : SplitOptions) (file : Text) : Prop :=
  ∀ text bundle, disk.read file = .ok text → bundleOf options file text = .ok bundle →
    Unvarying bundle

section Files

variable {disk : Disk Id} {options : SplitOptions} {file : Text} {workshop workshop' : Workshop}

theorem checkFile_of_read {text : Text} (h : disk.read file = .ok text)
    (workshop : Option Workshop) :
    checkFile disk front options file workshop = checkText front options file text workshop := by
  rw [checkFile, h]
  rfl

theorem checkFile_of_unread {cause : IoError} (h : disk.read file = .error cause)
    (workshop : Option Workshop) :
    checkFile disk front options file workshop =
      ({ file, error := some ("failed to read ".toList ++ file ++ ": ".toList ++ cause.message) },
        workshop) := by
  rw [checkFile, h]
  rfl

theorem Workshop.Used.checkFile (h : workshop.Used front) (disk : Disk Id) (options : SplitOptions)
    (file : Text) :
    ∃ report next, checkFile disk front options file (some workshop) = (report, some next) ∧
      next.Used front := by
  cases hread : disk.read file with
  | error cause => exact ⟨_, workshop, checkFile_of_unread hread _, h⟩
  | ok text =>
    obtain ⟨next, hnext, hused⟩ := h.checkText
    exact ⟨_, next, (checkFile_of_read hread _).trans (Prod.ext rfl hnext), hused⟩

/-- The report on a file without varyings is the same from all workshops in use. -/
theorem checkFile_of_unvarying (h : workshop.Used front) (h' : workshop'.Used front)
    (hfile : UnvaryingFile disk options file) :
    (Command.checkFile disk front options file (some workshop)).1 =
      (Command.checkFile disk front options file (some workshop')).1 := by
  cases hread : disk.read file with
  | error cause => rw [checkFile_of_unread hread, checkFile_of_unread hread]
  | ok text =>
    rw [checkFile_of_read hread, checkFile_of_read hread, checkText_eq, checkText_eq]
    cases hsplit : bundleOf options file text with
    | error error => rfl
    | ok bundle => simp only [tryBuild_of_unvarying h h' (hfile text bundle hread hsplit)]

end Files

/-! ### Many files

The report on a file is made in the workshop that the files before it have left. The induction is on
these. -/

/-- The reports of a run over some files, from a workshop. -/
def reports (disk : Disk Id) (front : FrontEnd) (options : SplitOptions) (workshop : Workshop)
    (files : List Text) : List FileReport :=
  checkFiles disk front options files (some workshop)

/-- The report of a run over one file. -/
def reportAlone (disk : Disk Id) (front : FrontEnd) (options : SplitOptions) (validate : Bool)
    (file : Text) : FileReport :=
  (checkFile disk front options file (some { validate })).1

section Files

variable {disk : Disk Id} {options : SplitOptions} {workshop : Workshop}

theorem reports_cons {file : Text} {report : FileReport} {next : Workshop}
    (h : checkFile disk front options file (some workshop) = (report, some next))
    (rest : List Text) :
    reports disk front options workshop (file :: rest) =
      report :: reports disk front options next rest := by
  rw [reports, checkFiles, h]
  rfl

/-- The report on a file is that of a workshop in which the files before it were checked. -/
theorem exists_workshop (h : workshop.Used front) {files : List Text} {i : Nat} {file : Text}
    (hfile : files[i]? = some file) :
    ∃ behind : Workshop, behind.Used front ∧
      (reports disk front options workshop files)[i]? =
        some (checkFile disk front options file (some behind)).1 := by
  induction files generalizing workshop i with
  | nil => simp at hfile
  | cons first rest ih =>
    -- The workshop behind the first file is one in use again.
    obtain ⟨report, next, hcheck, hnext⟩ := h.checkFile disk options first
    rw [reports_cons hcheck]
    cases i with
    | zero =>
      obtain rfl : first = file := by simpa using hfile
      exact ⟨workshop, h, by rw [hcheck]; rfl⟩
    | succ i => exact ih hnext (by simpa using hfile)

/-- **A file without varyings to lay out gets the report that it gets alone.** -/
theorem reports_of_unvarying (front : FrontEnd) {validate : Bool} {files : List Text} {i : Nat}
    {file : Text} (hfile : files[i]? = some file) (h : UnvaryingFile disk options file) :
    (reports disk front options { validate } files)[i]? =
      some (reportAlone disk front options validate file) := by
  obtain ⟨behind, hbehind, hreport⟩ := exists_workshop (used_new front validate) hfile
  rw [hreport, reportAlone, checkFile_of_unvarying hbehind (used_new front validate) h]

end Files

/-! ### A few files

Three files and a disk with them: the first leaves a name in the table, the second depends on it,
and the third does not. -/

/-- A file that leaves the name of a varying behind. -/
def forerunner : Text :=
  ("#version 450\n#pragma vertex\nout float w;\n" ++
    "@entry void v()\x7bw=0.;gl_Position=vec4(w);\x7d\n" ++
    "#pragma fragment\n@entry void f()\x7b\x7d\n").toList

/-- A file whose stages meet at location zero. Only its vertex stage says so. -/
def halfLaidOut : Text :=
  ("#version 450\n#pragma vertex\nlayout(location=0) out float n;\n" ++
    "@entry void v()\x7bn=0.;gl_Position=vec4(n);\x7d\n" ++
    "#pragma fragment\nin float n;\nout vec4 c;\n@entry void f()\x7bc=vec4(n);\x7d\n").toList

/-- A file whose stages have nothing between them. -/
def plainColor : Text :=
  ("#version 450\n#pragma vertex\nin vec4 p;\n@entry void v()\x7bgl_Position=p;\x7d\n" ++
    "#pragma fragment\nout vec4 c;\n@entry void f()\x7bc=vec4(1);\x7d\n").toList

/-- A disk with these files. -/
def fewFiles : Disk Id where
  kind? _ := some .file
  read file := .ok (if file = ['a'] then forerunner else if file = ['b'] then halfLaidOut
    else plainColor)

/-- The values at the locations that a source gives to what goes in, or to what comes out. -/
def locatedValues (storage : Headless.Storage) (source : Text) : List Headless.Value :=
  source.lines.filterMap fun line =>
    match Headless.explicitLocation? line with
    | some (found, location) =>
      if found = storage then some { ty := 0, binding? := some (.location location) } else none
    | none => none

/-- A front end for sources in which nothing is wrong: it reads the interface off their layouts, and
takes every value for a number. What comes out is one structure. -/
def layoutsOnly : FrontEnd := fun _ source =>
  let numbers : Headless.Arena := { types := [.scalar .float] }
  .ok {
    types := numbers.push (.struct (locatedValues .output source))
    entryPoints := [{ arguments := locatedValues .input source, result? := some { ty := 1 } }] }

theorem unvaryingFile_fewFiles : UnvaryingFile fewFiles {} ['c'] := by
  intro text bundle hread hsplit
  obtain rfl : plainColor = text := Except.ok.inj hread
  have hunvarying : ∀ found ∈ (bundleOf {} ['c'] plainColor).toOption,
      ∀ block ∈ Headless.readable found.blocks,
        Headless.hasVarying block.stage block.source = false := by
    decide +kernel
  exact hunvarying bundle (by rw [hsplit]; rfl)

/-! ### What was built before

Both halves are about all front ends. The first is about bundles and what their builds come to, the
second about files and their reports. -/

/-- **What was built before shows just where varyings are to be laid out.** For a bundle without one
a build comes to the same whatever the front end, and so do the reports on its file; for any other
bundle some front end tells two pasts apart. -/
theorem independent_of_past (options : SplitOptions) :
    (∀ (name text : Text) (bundle : Bundle), Bundle.split options name text = .ok bundle →
        (HistoryFree bundle ↔ Unvarying bundle) ∧
        (HistoryFreeSuccess bundle ↔
          ((∀ block ∈ bundle.blocks, block.stage = .vertex ∨ block.stage = .fragment) →
            Unvarying bundle))) ∧
      ∀ (front : FrontEnd) (disk : Disk Id) (validate : Bool) (files : List Text) (i : Nat)
        (file : Text), files[i]? = some file → UnvaryingFile disk options file →
          (reports disk front options { validate } files)[i]? =
            some (reportAlone disk front options validate file) :=
  ⟨fun _ _ _ hsplit => ⟨historyFree_iff hsplit, historyFreeSuccess_iff hsplit⟩,
    fun front _ _ _ _ _ hfile h => reports_of_unvarying front hfile h⟩

theorem independent_of_past_fewFiles :
    Bundle.split {} [] (Headless.priorFile 'a') = .ok (Headless.priorBundle 'a') ∧
      ¬HistoryFreeSuccess (Headless.priorBundle 'a') ∧
      [['a'], ['c']][1]? = some ['c'] ∧ UnvaryingFile fewFiles {} ['c'] ∧
      (reports fewFiles layoutsOnly {} { validate := true } [['a'], ['c']])[1]? =
        some (reportAlone fewFiles layoutsOnly {} true ['c']) := by
  have hsplit := Headless.split_priorFile (.inl rfl : 'a' = 'a' ∨ 'a' = 'b')
  refine ⟨hsplit, fun hfree => ?_, rfl, unvaryingFile_fewFiles,
    (independent_of_past {}).2 layoutsOnly fewFiles true _ 1 ['c'] rfl unvaryingFile_fewFiles⟩
  have hunvarying := ((independent_of_past {}).1 [] _ _ hsplit).2.mp hfree (by decide)
  unfold Unvarying at hunvarying
  exact absurd hunvarying (by decide +kernel)

/-- Alone the second file is in order, behind the first one it does not link. -/
theorem halfLaidOut_behind_forerunner :
    (reportAlone fewFiles layoutsOnly {} true ['b']).passes = true ∧
      (reports fewFiles layoutsOnly {} { validate := true } [['a'], ['b']]).map
        FileReport.passes = [true, false] := by
  decide +kernel

end ShaderBundle.Command
