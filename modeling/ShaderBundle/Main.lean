import ShaderBundle.Command.Answer

/-!
# The program

Reads files, the environment and the clock for the commands, and writes what they answer.

## Main definitions

* `systemDisk` is the file system of the machine.
* `main` is the program.
-/

namespace ShaderBundle.Command

/-- The number of a system error, which may be given with either sign. -/
def errorNumber (code : UInt32) : Nat :=
  (min code (0 - code)).toNat

/-- The cause of a failed read, from what the system says. -/
def causeOf : IO.Error → IoError
  | .noFileOrDirectory _ _ _ => .notFound
  | .inappropriateType _ code details | .otherError code details
  | .permissionDenied _ code details | .hardwareFault code details
  | .resourceExhausted _ code details =>
    if errorNumber code = 20 then .notDirectory
    else if errorNumber code = 21 then .isDirectory
    else .other (details.toList ++ " (os error ".toList ++ decimal (errorNumber code) ++ [')'])
  | error => .other (toString error).toList

/-- The bytes of a file. -/
def readBytes (path : Text) : IO (Except IoError (List UInt8)) := do
  if path.contains '\x00' then return .error .zeroInPath
  match ← (IO.FS.readBinFile (String.ofList path)).toBaseIO with
  | .ok bytes => return .ok bytes.toList
  | .error error => return .error (causeOf error)

/-- The file system of the machine. What is there and cannot be read counts as a file. -/
def systemDisk : Disk IO where
  kind? path := do
    match ← readBytes path with
    | .ok _ | .error (.other _) => return some .file
    | .error .isDirectory => return some .directory
    | .error _ => return none
  read path := do
    match ← readBytes path with
    | .ok bytes => match Utf8.decode? bytes with
      | some text => return .ok text
      | none => return .error .notUtf8
    | .error cause => return .error cause

/-- Writes a text to the standard output at once. -/
def say (text : Text) : IO Unit := do
  let output ← IO.getStdout
  output.putStr (String.ofList text)
  output.flush

/-- The time in milliseconds, as far as it can be slept at once. -/
def milliseconds (duration : Duration) : UInt32 :=
  UInt32.ofNat (min (duration.seconds * 1000 + duration.nanos / 1000000) 4294967295)

/-- Polls until the polls run out, or for ever. -/
partial def keepWatching (watch : Watch) (polls : Option Nat) (watcher : Watcher) : IO Unit := do
  if polls = some 0 then return ()
  IO.sleep (milliseconds watch.interval)
  let disk ← systemDisk.remember watch.places
  let (text, watcher) := watch.poll disk watcher
  say text
  keepWatching watch (polls.map fun n => n - 1) watcher

/-- Watches shaders. -/
def runWatch (watch : Watch) : IO Unit := do
  let disk ← systemDisk.remember watch.places
  let (text, watcher) := watch.start disk
  say text
  keepWatching watch watch.polls watcher

/-- Does what the arguments ask for, and gives the exit code. -/
def run (arguments : List Text) : IO UInt32 := do
  let environment ← Environment.ofVariables fun name => do
    return (← IO.getEnv name).map String.toList
  match ← respond systemDisk environment arguments with
  | .answer answer =>
    say answer.output
    (← IO.getStderr).putStr (String.ofList answer.errors)
    return UInt32.ofNat answer.code
  | .watch watch =>
    runWatch watch
    return 0
  | .abort => return 101

end ShaderBundle.Command

/-- The program. -/
def main (arguments : List String) : IO UInt32 :=
  ShaderBundle.Command.run (arguments.map String.toList)
