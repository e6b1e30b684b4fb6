import ShaderBundle.Bundle.Split
import ShaderBundle.Diagnostic
import ShaderBundle.Graphics.Program

/-!
# Building a program

A program is built by compiling every block of a bundle in file order and linking the stages.
Stages live only until the program is linked; whatever fails, the stages compiled so far and an
unlinked program are deleted.

## Main definitions

* `BuildError` is the cause of a failed build.
* `Build.compileBlock` compiles one block and reports its log by lines of the file.
* `Build.link` links stages into a program, `Build.build` does both.

## Implementation notes

Validation after linking is advice: its answer is thrown away. A crash is not a failure. It ends the
job and cleans nothing up.
-/

namespace ShaderBundle

/-- What can go wrong with the graphics thread. -/
inductive ThreadError where
  /-- The thread is gone, or the job crashed. -/
  | unavailable
  /-- A job on the thread wanted to wait for the thread. -/
  | reentrant
  /-- The thread did not start. -/
  | startup (cause : Text)
  deriving DecidableEq, Repr

/-- Why no program was built. -/
inductive BuildError where
  /-- A stage was refused. -/
  | compile (stage : Stage) (diagnostics : List Diagnostic)
  /-- The program was refused. -/
  | link (log : Text)
  /-- The graphics thread failed. -/
  | thread (cause : ThreadError)
  deriving DecidableEq, Repr

/-- The cause in words. -/
def ThreadError.message : ThreadError → Text
  | unavailable => "graphics thread is not running".toList
  | reentrant => "graphics thread job tried to wait on the graphics thread".toList
  | startup cause => "graphics thread failed to start: ".toList ++ cause

/-- The cause in words. -/
def BuildError.message : BuildError → Text
  | compile stage diagnostics =>
    stage.name.toList ++ " stage failed to compile:\n".toList ++ Diagnostic.render diagnostics
  | link log => "program failed to link:\n".toList ++ log
  | thread cause => cause.message

/-- A compiled stage that waits to be linked. -/
structure Compiled where
  /-- The stage. -/
  stage : Stage
  /-- The backend's name for it. -/
  id : StageId
  deriving DecidableEq, Repr

namespace Build

variable {σ : Type}

/-- What stands for a log that says nothing. -/
def silent : Diagnostic :=
  ⟨none, "compiler reported a failure without a log".toList⟩

/-- The diagnostics of a log, or one that says that there is none. A line number too large for its
word ends the job. -/
def diagnose (block : Block) (log : Text) : Job σ (List Diagnostic) :=
  match Diagnostic.remapBlock? block log with
  | none => Job.crash
  | some [] => pure [silent]
  | some diagnostics => pure diagnostics

/-- Compiles one block. -/
def compileBlock (backend : Backend σ) (block : Block) : Job σ (Except BuildError Compiled) := do
  match ← backend.compile block.stage block.source with
  | .ok id => return .ok ⟨block.stage, id⟩
  | .error log => return .error (.compile block.stage (← diagnose block log))

/-- Deletes stages, in order. -/
def release (backend : Backend σ) : List Compiled → Job σ Unit
  | [] => pure ()
  | compiled :: rest => do
    backend.deleteStage compiled.id
    release backend rest

/-- Compiles blocks, in order, after those in `done`. At the first refusal the stages compiled so
far are deleted. -/
def compileBlocks (backend : Backend σ) (done : List Compiled) :
    List Block → Job σ (Except BuildError (List Compiled))
  | [] => pure (.ok done)
  | block :: rest => do
    match ← compileBlock backend block with
    | .ok compiled => compileBlocks backend (done ++ [compiled]) rest
    | .error error =>
      release backend done
      return .error error

/-- Attaches stages to a program, in order. -/
def attach (backend : Backend σ) (program : ProgramId) : List Compiled → Job σ Unit
  | [] => pure ()
  | compiled :: rest => do
    backend.attach program compiled.id
    attach backend program rest

/-- Detaches stages from a program, in order. -/
def detach (backend : Backend σ) (program : ProgramId) : List Compiled → Job σ Unit
  | [] => pure ()
  | compiled :: rest => do
    backend.detach program compiled.id
    detach backend program rest

/-- Detaches and deletes stages, one after the other. -/
def consume (backend : Backend σ) (program : ProgramId) : List Compiled → Job σ Unit
  | [] => pure ()
  | compiled :: rest => do
    backend.detach program compiled.id
    backend.deleteStage compiled.id
    consume backend program rest

/-- Asks the backend to check a program, if so wanted, and forgets the answer. -/
def advise (backend : Backend σ) (program : ProgramId) (validate : Bool) : Job σ Unit :=
  if validate then do
    let _ ← backend.validate program
    return ()
  else pure ()

/-- Links stages into a new program. The stages are deleted in any case. -/
def link (backend : Backend σ) (compiled : List Compiled) (validate : Bool) :
    Job σ (Except BuildError Program) := do
  match ← backend.createProgram with
  | .error log =>
    release backend compiled
    return .error (.link log)
  | .ok program =>
    attach backend program compiled
    match ← backend.link program with
    | .error log =>
      detach backend program compiled
      release backend compiled
      backend.deleteProgram program
      return .error (.link log)
    | .ok () =>
      consume backend program compiled
      advise backend program validate
      return .ok { id := program, stages := compiled.map Compiled.stage }

/-- Builds the program of a bundle. -/
def build (backend : Backend σ) (bundle : Bundle) (validate : Bool) :
    Job σ (Except BuildError Program) := do
  match ← compileBlocks backend [] bundle.blocks with
  | .error error => return .error error
  | .ok compiled => link backend compiled validate

end Build

end ShaderBundle
