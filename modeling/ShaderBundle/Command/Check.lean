import ShaderBundle.Bundle.Split
import ShaderBundle.Graphics.Worker
import ShaderBundle.Headless.Backend
import ShaderBundle.Source.Disk
import ShaderBundle.Text.Json

/-!
# Checking files

Each file is read and split and, if so wanted, compiled and linked without a graphics card. What
came of it is a report.

## Main definitions

* `FileReport` is what came of one file.
* `checkFile` checks one file, `checkFiles` some of them in order.
* `FileReport.lines` is a report for readers, `reportJson` the reports for other programs.

## Implementation notes

One backend compiles all the files of a run, so what it remembers of the varyings of one file is
there for the next.

What the backend compiles with is a parameter of everything that compiles. Nothing here asks what
a front end accepts or why it refuses; it is a fixed function of a stage and a source, and the same
one for all files of a run.
-/

namespace ShaderBundle.Command

/-! ### Reports -/

/-- A problem within a file. -/
structure Problem where
  /-- The stage that has it, if it is known. -/
  stage : Option Stage := none
  /-- The line of the file, if it is known. -/
  line : Option Nat := none
  /-- The problem in words. -/
  message : Text
  deriving DecidableEq, Repr

/-- What came of a file. -/
structure FileReport where
  /-- The file, as it was given. -/
  file : Text
  /-- The stages of the file, as far as it could be split. -/
  stages : List Stage := []
  /-- Why the file fails, if it does. -/
  error : Option Text := none
  /-- The problems one by one. -/
  problems : List Problem := []
  deriving DecidableEq, Repr

/-- Whether the file is in order. -/
def FileReport.passes (report : FileReport) : Bool :=
  report.error.isNone

/-- The problems behind a failure to split. -/
def problemsOfSplit : SplitError → List Problem
  | .malformed stage lines fault => [⟨stage, some lines.start, fault.message.toList⟩]
  | .missingVersion | .incomplete _ => []

/-- The problems behind a failed build. -/
def problemsOfBuild : BuildError → List Problem
  | .compile stage diagnostics => diagnostics.map fun diagnostic =>
      ⟨some stage, diagnostic.line, diagnostic.message⟩
  | .link log =>
    (log.lines.filter fun line => !Text.isAllBlank line).map fun message => ⟨none, none, message⟩
  | .thread _ => []

/-! ### Checking -/

/-- Where and how files are compiled. -/
structure Workshop where
  /-- The thread of the headless backend. -/
  worker : Worker Headless.State := { device := {} }
  /-- Whether programs are validated. -/
  validate : Bool

/-- Builds the program of a bundle and destroys it. -/
def tryBuild (front : Headless.FrontEnd) (bundle : Bundle) (workshop : Workshop) :
    Except BuildError Unit × Workshop :=
  let job : Job Headless.State (Except BuildError Unit) := do
    match ← Build.build (Headless.backend front) bundle workshop.validate with
    | .error error => return .error error
    | .ok program =>
      (Headless.backend front).deleteProgram program.id
      return .ok ()
  match workshop.worker.call .outside job with
  | (.ok outcome, worker) => (outcome, { workshop with worker })
  | (.error error, worker) => (.error (.thread error), { workshop with worker })

/-- Checks the text of a file. Without a workshop it is split and no more. -/
def checkText (front : Headless.FrontEnd) (options : SplitOptions) (file text : Text)
    (workshop : Option Workshop) : FileReport × Option Workshop :=
  match Bundle.split options ((Path.stem? file).getD "shader".toList) text with
  | .error error =>
    ({ file, error := some error.message.toList, problems := problemsOfSplit error }, workshop)
  | .ok bundle =>
    match workshop with
    | none => ({ file, stages := bundle.stages }, none)
    | some workshop =>
      match tryBuild front bundle workshop with
      | (.ok (), workshop) => ({ file, stages := bundle.stages }, some workshop)
      | (.error error, workshop) =>
        ({ file, stages := bundle.stages, error := some error.message,
           problems := problemsOfBuild error }, some workshop)

section Files

variable {m : Type → Type} [Monad m]

/-- Checks a file. -/
def checkFile (disk : Disk m) (front : Headless.FrontEnd) (options : SplitOptions) (file : Text)
    (workshop : Option Workshop) : m (FileReport × Option Workshop) := do
  match ← disk.read file with
  | .ok text => return checkText front options file text workshop
  | .error cause =>
    let error := "failed to read ".toList ++ file ++ ": ".toList ++ cause.message
    return ({ file, error := some error }, workshop)

/-- Checks files in order. -/
def checkFiles (disk : Disk m) (front : Headless.FrontEnd) (options : SplitOptions) :
    List Text → Option Workshop → m (List FileReport)
  | [], _ => return []
  | file :: rest, workshop => do
    let (report, workshop) ← checkFile disk front options file workshop
    return report :: (← checkFiles disk front options rest workshop)

end Files

/-! ### Writing reports -/

/-- The lines of a text, each two blanks further in. -/
def inset (text : Text) : List Text :=
  text.lines.map fun line => ' ' :: ' ' :: line

/-- A report for readers, in lines. -/
def FileReport.lines (report : FileReport) : List Text :=
  match report.error with
  | none => ["ok     ".toList ++ report.file ++ " (".toList ++
      (Stage.listNames report.stages).toList ++ [')']]
  | some error => ("FAILED ".toList ++ report.file) :: inset error

/-- A field of an object, if there is a value for it. -/
def fieldOf (name : String) (value : Option JsonValue) : List (Text × JsonValue) :=
  value.toList.map fun value => (name.toList, value)

/-- The stage as a value. -/
def stageJson (stage : Stage) : JsonValue :=
  .text stage.name.toList

/-- A problem as a value. -/
def Problem.json (problem : Problem) : JsonValue :=
  .object (fieldOf "stage" (problem.stage.map stageJson) ++
    fieldOf "line" (problem.line.map .number) ++
    fieldOf "message" (some (.text problem.message)))

/-- A report as a value. Problems are left out where there are none. -/
def FileReport.json (report : FileReport) : JsonValue :=
  let problems : Option JsonValue :=
    if report.problems.isEmpty then none else some (.list (report.problems.map Problem.json))
  .object (fieldOf "file" (some (.text report.file)) ++
    fieldOf "ok" (some (.flag report.passes)) ++
    fieldOf "stages" (some (.list (report.stages.map stageJson))) ++
    fieldOf "error" (report.error.map .text) ++
    fieldOf "diagnostics" problems)

/-- The reports for other programs. -/
def reportJson (reports : List FileReport) : Text :=
  (JsonValue.list (reports.map FileReport.json)).pretty

end ShaderBundle.Command
