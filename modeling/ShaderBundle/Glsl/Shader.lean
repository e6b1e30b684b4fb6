import ShaderBundle.Glsl.Module
import ShaderBundle.Glsl.Statement

/-!
# Shaders

A whole stage in GLSL, as a driver without a graphics card compiles it: it is read, checked and
forgotten, except for the globals and the interface that programs need.

## Main definitions

* `readShader` reads a shader to its end.
* `check` finds the first thing wrong with a shader that reads well.
* `compile` does both.
-/

namespace ShaderBundle.Glsl

/-! ### Reading -/

/-- Reads one declaration at the top of a shader. -/
def readExternal (fuel : Nat) : Reader Unit := do
  unless ← readDeclaration (some (readBody fuel)) fuel do
    let version := (← get).version
    match ← bump with
    | (.fixed ";", line) =>
      unless version = 460 do unexpected (.fixed ";") line ["end of file"]
    | (t, line) =>
      unexpected t line (if version = 460 then ["Semicolon", "end of file"] else ["end of file"])

/-- Reads declarations to the end of a shader. -/
def readExternals : Nat → Reader Unit
  | 0 => exhausted
  | fuel + 1 => do
    if (← next?).isSome then
      withFuel readExternal
      readExternals fuel

/-- The place of the main function. -/
def mainFunction? (functions : List Function) : Option Nat :=
  functions.findIdx? fun function =>
    function.name = "main".toList && function.defined && function.parameters.isEmpty

/-- Reads a shader to its end and finds its main function. -/
def readShader : Reader Nat := do
  readExternals ((← remaining) + 1)
  match mainFunction? (← get).functions with
  | some index => return index
  | none => refuseMisuse 1 "Missing entry point"

/-! ### Checking -/

/-- The words for something that is not valid, with its place and name. -/
def invalidText (kind : String) (index : Nat) (name : Text) : Text :=
  kind.toList ++ " [".toList ++ decimal index ++ "] '".toList ++ name ++ "' is invalid".toList

/-- The word for a stage. -/
def stageWord : Stage → String
  | .vertex => "Vertex"
  | .fragment => "Fragment"
  | .compute => "Compute"
  | .tessControl => "TessControl"
  | .tessEval => "TessEval"
  | .geometry => "Geometry"

/-- The words for an entry point that is not valid. -/
def invalidEntry (stage : Stage) : Text :=
  "Entry point main at ".toList ++ (stageWord stage).toList ++ " is invalid".toList

/-- A log that says that the entry point is not valid, with the line it has to do with. -/
def entryLog (stage : Stage) (line? : Option Nat) : Text :=
  match line? with
  | some line => logLine line (invalidEntry stage)
  | none => "ERROR: ".toList ++ invalidEntry stage

/-- Whether an entry point runs at all, whatever goes in and comes out. -/
def entryRuns (s : Session) (effects : Effects) : Bool :=
  let (x, y, z) := s.workgroup
  s.startSound && effects.runIn s.stage && (s.stage ≠ .compute || (x ≠ 0 && y ≠ 0 && z ≠ 0))

/-- The first thing wrong with the entry point, as a log. For an input it is told where its type was
first named, and for two globals at one binding where the second one is. -/
def checkEntry (s : Session) (main : Nat) : Option Text :=
  let outputs := piecesOn s.structs s.crossings true
  let effects := effectsOf s.functions (s.functions.length + 1) main
  if !entryRuns s effects then some (entryLog s.stage none)
  else match unfitPiece? s.stage false [] (piecesOn s.structs s.crossings false) with
    | some piece => some (entryLog s.stage (s.typeLines.lookup piece.ty))
    | none =>
      if (unfitPiece? s.stage true [] outputs).isSome || !writesPosition s.stage outputs then
        some (entryLog s.stage none)
      else (bindingClash? effects.globals s.globals).map fun record =>
        entryLog s.stage (some record.line)

/-- The first thing wrong with a shader that reads well, as a log. -/
def check (s : Session) (main : Nat) : Option Text :=
  match s.unfitConstant? with
  | some (line, index, name) => some (logLine line (invalidText "Constant" index name))
  | none =>
    match invalidGlobal? s.structs s.globals with
    | some (record, index) =>
      some (logLine record.line (invalidText "Global variable" index (record.name?.getD [])))
    | none =>
      match unsoundFunction? s.functions with
      | some (function, index) =>
        some (logLine function.line (invalidText "Function" index function.name))
      | none => checkEntry s main

/-! ### Compiling -/

/-- Compiles a shader. -/
def compile : Headless.FrontEnd := fun stage source =>
  let (outcome, s) := readShader.run.run { stage, rest := preprocess source }
  match outcome with
  | .error found => .error (report (s.faults ++ [found]))
  | .ok main =>
    if s.faults.isEmpty then
      match check s main with
      | some log => .error log
      | none => .ok (moduleOf s)
    else .error (report s.faults)

end ShaderBundle.Glsl
