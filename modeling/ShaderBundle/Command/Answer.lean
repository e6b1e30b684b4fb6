import ShaderBundle.Command.Configuration
import ShaderBundle.Command.Help
import ShaderBundle.Command.Listing
import ShaderBundle.Command.Watch

/-!
# Answers

The program takes its arguments, its environment and a disk, and what comes of them is an answer:
text to write and a code to end with, or a watch that goes on for a while.

## Main definitions

* `Answer` is text with an exit code.
* `Course` is what the program does: it answers, it watches, or it aborts.
* `respond` is the program.
* `Course.answer?` is the answer over a disk that stays the same.
-/

namespace ShaderBundle.Command

/-- What the program writes and how it ends. -/
structure Answer where
  /-- The code to end with: zero if all is well. -/
  code : Nat := 0
  /-- What goes to the standard output. -/
  output : Text := []
  /-- What goes to the standard error output. -/
  errors : Text := []
  deriving DecidableEq, Repr

/-- What the program does. -/
inductive Course where
  /-- It writes something and ends. -/
  | answer (answer : Answer)
  /-- It watches shaders, and ends well if it ends. -/
  | watch (watch : Watch)
  /-- It aborts. -/
  | abort
  deriving DecidableEq, Repr

/-- The answer to arguments that make no request. Misuse ends with code two. -/
def answerStop : Stop → Answer
  | .misuse error =>
    { code := 2
      errors := error.message ++ "\n\nFor more information, try '--help'.\n".toList }
  | .help verb => { output := helpText verb }
  | .version => { output := versionText }

/-- The answer to a failure. -/
def answerFailure (failure : Failure) : Answer :=
  { code := 1, errors := failure.report }

/-- The answer to a check. It ends with code one if a file fails. -/
def answerCheck (json : Bool) (reports : List FileReport) : Answer where
  code := if reports.all FileReport.passes then 0 else 1
  output :=
    if json then reportJson reports ++ ['\n']
    else reports.flatMap fun report => report.lines.flatMap fun line => line ++ ['\n']

section Respond

variable {m : Type → Type} [Monad m]

/-- Carries a task out. -/
def perform (disk : Disk m) (settings : Settings) : Task → m Course
  | .check files compile json => do
    let workshop : Option Workshop :=
      if compile then some { validate := settings.validates } else none
    let reports ← checkFiles disk Glsl.compile ⟨settings.nativePragmas⟩ files workshop
    return .answer (answerCheck json reports)
  | .split file only => do
    match ← listFile disk ⟨settings.nativePragmas⟩ file only with
    | .ok output => return .answer { output }
    | .error failure => return .answer (answerFailure failure)
  | .watch names roots interval polls =>
    return .watch (Watch.ofSettings settings names roots interval polls)

/-- What the program does with its arguments. -/
def respond (disk : Disk m) (environment : Environment) (arguments : List Text) : m Course := do
  match Request.read environment.config arguments with
  | .error stop => return .answer (answerStop stop)
  | .ok request =>
    match ← loadSettings? disk environment request.config with
    | none => return .abort
    | some (.error failure) => return .answer (answerFailure failure)
    | some (.ok settings) => perform disk settings request.task

end Respond

/-- The answer over a disk that stays the same. There is none where the program aborts or goes on
for ever. -/
def Course.answer? (disk : Disk Id) : Course → Option Answer
  | .answer written => some written
  | .watch plan => plan.polls.map fun polls => { output := plan.transcript disk polls }
  | .abort => none

end ShaderBundle.Command
