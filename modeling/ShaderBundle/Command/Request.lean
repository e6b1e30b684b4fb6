import ShaderBundle.Command.Parameter

/-!
# Requests

The arguments of the program are read from left to right. What they ask for is a request; the first
thing wrong with them is a usage error.

## Main definitions

* `UsageError` is what is wrong with arguments, `UsageError.message` says it.
* `Progress` is what was read of the arguments of the program, or of a verb.
* `Request.read` makes a request from all arguments.

## Implementation notes

The values of a parameter are looked at when the next parameter begins. So a bad value goes
unnoticed where the argument behind it is not known at all: that argument is the first fault.
-/

namespace ShaderBundle.Command

/-! ### Usage errors -/

/-- What is wrong with arguments. -/
inductive UsageError where
  /-- There are no arguments at all. -/
  | nothing
  /-- There is no verb. -/
  | noVerb
  /-- No verb has the name. -/
  | unknownVerb (argument : Text)
  /-- No parameter takes the argument. -/
  | unexpected (argument : Text)
  /-- A value is missing. -/
  | noValue (parameter : Parameter)
  /-- The argument is no value of the parameter. -/
  | badValue (parameter : Parameter) (argument : Text) (fault : ValueFault)
  /-- A switch was given a value. -/
  | needlessValue (parameter : Parameter) (argument : Text)
  /-- The parameter was given twice. -/
  | repeated (parameter : Parameter)
  /-- An operand is missing. -/
  | missing (parameter : Parameter)
  deriving DecidableEq, Repr

/-- What the program does, in one line. -/
def purpose : Text :=
  "Check, split and watch unified GLSL shader files".toList

/-- The error in words. Where there are no arguments, the purpose of the program is told. -/
def UsageError.message : UsageError → Text
  | nothing => purpose
  | noVerb => "error: 'unishade' requires a subcommand but one was not provided".toList
  | unknownVerb argument =>
    "error: unrecognized subcommand '".toList ++ argument ++ ['\'']
  | unexpected argument => "error: unexpected argument '".toList ++ argument ++ "' found".toList
  | noValue parameter => "error: a value is required for '".toList ++ parameter.label ++
      "' but none was supplied".toList
  | badValue parameter argument fault => "error: invalid value '".toList ++ argument ++
      "' for '".toList ++ parameter.label ++ "': ".toList ++ fault.message
  | needlessValue parameter argument => "error: unexpected value '".toList ++ argument ++
      "' for '".toList ++ parameter.label ++ "' found; no more were expected".toList
  | repeated parameter => "error: the argument '".toList ++ parameter.label ++
      "' cannot be used multiple times".toList
  | missing parameter =>
    "error: the following required arguments were not provided:\n  ".toList ++ parameter.label

/-- Why reading the arguments ends before a request. -/
inductive Stop where
  | misuse (error : UsageError)
  /-- Help is asked for, with a verb or the whole program. -/
  | help (verb : Option Verb)
  /-- The version is asked for. -/
  | version
  deriving DecidableEq, Repr

/-! ### Reading the arguments of one verb -/

/-- What was read of the arguments of a verb, or of those before the verb. -/
structure Progress where
  /-- The parameters with their values, in order. -/
  given : List (Parameter × Value) := []
  /-- The parameter whose values are being collected, with the arguments for them. -/
  pending : Option (Parameter × List Text) := none
  /-- Whether the next argument belongs to the pending option unless it is an option itself. -/
  awaiting : Bool := false
  /-- Whether two dashes were read, behind which there are only operands. -/
  onlyOperands : Bool := false
  deriving DecidableEq, Repr

namespace Progress

/-- Whether a parameter was given. -/
def has (progress : Progress) (parameter : Parameter) : Bool :=
  progress.given.any fun pair => pair.1 = parameter

/-- The values for some arguments. -/
def readAll (parameter : Parameter) : List Text → Except UsageError (List (Parameter × Value))
  | [] => .ok []
  | argument :: rest =>
    match parameter.read argument with
    | .error .noPath => .error (.noValue parameter)
    | .error fault => .error (.badValue parameter argument fault)
    | .ok value =>
      match readAll parameter rest with
      | .error error => .error error
      | .ok values => .ok ((parameter, value) :: values)

/-- Gives a parameter the values of some arguments. -/
def give (progress : Progress) (parameter : Parameter) (arguments : List Text) :
    Except UsageError Progress :=
  if arguments.isEmpty then .error (.noValue parameter)
  else if progress.has parameter && !parameter.isRepeatable then .error (.repeated parameter)
  else match readAll parameter arguments with
    | .error error => .error error
    | .ok values => .ok { progress with given := progress.given ++ values }

/-- Looks at the values that are being collected. -/
def settle (progress : Progress) : Except UsageError Progress :=
  match progress.pending with
  | none => .ok { progress with awaiting := false }
  | some (parameter, arguments) =>
    { progress with pending := none, awaiting := false }.give parameter arguments

/-- Sets a switch. -/
def set (progress : Progress) (parameter : Parameter) : Except UsageError Progress :=
  if progress.has parameter then .error (.repeated parameter)
  else .ok { progress with given := progress.given ++ [(parameter, .given)] }

/-- Goes on to collect the values of an operand. -/
def operand (progress : Progress) (parameter : Parameter) (argument : Text) :
    Except UsageError Progress :=
  match progress.pending with
  | some (collecting, arguments) =>
    if collecting = parameter && parameter.isRepeatable then
      .ok { progress with pending := some (parameter, arguments ++ [argument]) }
    else begin
  | none => begin
where
  /-- Begins with the operand, unless it was given already. -/
  begin : Except UsageError Progress :=
    if !parameter.isRepeatable && (progress.has parameter ||
        (progress.pending.map Prod.fst) = some parameter) then .error (.unexpected argument)
    else match progress.settle with
      | .error error => .error error
      | .ok progress => .ok { progress with pending := some (parameter, [argument]) }

/-- The values of a parameter that are texts. -/
def texts (progress : Progress) (parameter : Parameter) : List Text :=
  progress.given.filterMap fun
    | (given, .text s) => if given = parameter then some s else none
    | _ => none

/-- The stage that was given. -/
def stage? (progress : Progress) : Option Stage :=
  progress.given.findSome? fun
    | (_, .stage stage) => some stage
    | _ => none

/-- The interval that was given. -/
def interval? (progress : Progress) : Option Duration :=
  progress.given.findSome? fun
    | (_, .interval interval) => some interval
    | _ => none

/-- The number of polls that was given. -/
def polls? (progress : Progress) : Option Nat :=
  progress.given.findSome? fun
    | (_, .count n) => some n
    | _ => none

end Progress

/-- The outcome of a step, as far as it may be misuse. -/
def orStop (outcome : Except UsageError Progress) : Except Stop Progress :=
  match outcome with
  | .ok progress => .ok progress
  | .error error => .error (.misuse error)

/-- The option with a word. -/
def optionOf? (level : Option Verb) (word : Text) : Option Parameter :=
  (optionsOf level).find? fun parameter => parameter.word? = some word

/-- Takes a switch. Those for help and the version end the reading. -/
def takeSwitch (level : Option Verb) (parameter : Parameter) (progress : Progress) :
    Except Stop Progress := do
  let progress ← orStop progress.settle
  match parameter with
  | .help => .error (.help level)
  | .version => .error .version
  | _ => orStop (progress.set parameter)

/-- Takes an argument with two dashes in front, without them. A value may follow an equals sign. -/
def takeLong (level : Option Verb) (argument : Text) (progress : Progress) :
    Except Stop Progress := do
  let word := argument.takeWhile (· ≠ '=')
  let attached : Option Text := match argument.drop word.length with
    | [] => none
    | _ :: value => some value
  match optionOf? level word with
  | none => .error (.misuse (.unexpected ('-' :: '-' :: word)))
  | some parameter =>
    match parameter.form, attached with
    | .switch _, some value => .error (.misuse (.needlessValue parameter value))
    | .switch _, none => takeSwitch level parameter progress
    | _, some value => do
      let progress ← orStop progress.settle
      orStop (progress.give parameter [value])
    | _, none => do
      let progress ← orStop progress.settle
      return { progress with pending := some (parameter, []), awaiting := true }

/-- Takes an argument with one dash in front, by the character behind it. -/
def takeShort (level : Option Verb) (c : Char) (progress : Progress) : Except Stop Progress :=
  if c = 'h' then takeSwitch level .help progress
  else if c = 'V' && level = none then takeSwitch level .version progress
  else .error (.misuse (.unexpected ['-', c]))

/-- Takes an argument that is no option and no value of one. -/
def takeOperand (level : Option Verb) (argument : Text) (progress : Progress) :
    Except Stop Progress :=
  match operandOf? level with
  | some parameter => orStop (progress.operand parameter argument)
  | none =>
    if progress.onlyOperands && (Verb.ofName? argument).isSome then
      .error (.misuse (.unexpected argument))
    else .error (.misuse (.unknownVerb argument))

/-- Takes one argument. -/
def take (level : Option Verb) (argument : Text) (progress : Progress) : Except Stop Progress :=
  if progress.onlyOperands then takeOperand level argument progress
  else match argument with
    | ['-', '-'] => .ok { progress with onlyOperands := true }
    | '-' :: '-' :: rest => takeLong level rest progress
    | '-' :: c :: _ => takeShort level c progress
    | _ =>
      if progress.awaiting then
        .ok { progress with
          awaiting := false
          pending := progress.pending.map fun (parameter, arguments) =>
            (parameter, arguments ++ [argument]) }
      else takeOperand level argument progress

/-- Takes arguments in order. -/
def takeAll (level : Option Verb) : List Text → Progress → Except Stop Progress
  | [], progress => orStop progress.settle
  | argument :: rest, progress => do
    takeAll level rest (← take level argument progress)

/-- Adds the settings file that the environment names, unless the arguments name one. -/
def addDefault (config : Option Text) (progress : Progress) : Except UsageError Progress :=
  match config with
  | some path => if progress.has .config then .ok progress else progress.give .config [path]
  | none => .ok progress

/-- Reads the arguments of a verb. -/
def readVerb (config : Option Text) (verb : Verb) (arguments : List Text) :
    Except Stop Progress := do
  let progress ← takeAll (some verb) arguments {}
  let completed ← orStop (addDefault config progress)
  match operandOf? (some verb) with
  | some parameter =>
    if completed.has parameter then return progress else .error (.misuse (.missing parameter))
  | none => return progress

/-! ### Reading all arguments -/

/-- What the program is asked to do. -/
inductive Task where
  | check (files : List Text) (compile json : Bool)
  | split (file : Text) (only : Option Stage)
  | watch (names roots : List Text) (interval : Option Duration) (polls : Option Nat)
  deriving DecidableEq, Repr

/-- A request to the program. -/
structure Request where
  /-- The settings file, if one is named. -/
  config : Option Text
  /-- What is to be done. -/
  task : Task
  deriving DecidableEq, Repr

/-- What a verb with its parameters asks for. -/
def taskOf (verb : Verb) (progress : Progress) : Task :=
  match verb with
  | .check => .check (progress.texts .files) (progress.has .compile) (progress.has .json)
  | .split => .split ((progress.texts .file).headD []) progress.stage?
  | .watch => .watch (progress.texts .names) (progress.texts .root) progress.interval?
      progress.polls?

/-- The help that is asked for by name. -/
def helpOn : List Text → Stop
  | [] => .help none
  | argument :: rest =>
    match Verb.ofName? argument, rest with
    | some verb, [] => .help (some verb)
    | some _, further :: _ => .misuse (.unknownVerb further)
    | none, _ => if argument = "help".toList then helpOn rest else .misuse (.unknownVerb argument)

/-- Reads the arguments up to the verb with the progress made, and what follows it. -/
def readRequest (config : Option Text) : List Text → Progress → Except Stop Request
  | [], progress => do
    let progress ← orStop progress.settle
    let completed ← orStop (addDefault config progress)
    .error (.misuse (if completed.given.isEmpty then .nothing else .noVerb))
  | argument :: rest, progress =>
    let isVerb := !progress.onlyOperands && !progress.awaiting
    match Verb.ofName? argument with
    | some verb =>
      if isVerb then do
        let own ← readVerb config verb rest
        let progress ← orStop progress.settle
        let _ ← orStop (addDefault config progress)
        let paths := own.texts .config ++ progress.texts .config ++ config.toList
        return { config := paths.head?, task := taskOf verb own }
      else do readRequest config rest (← take none argument progress)
    | none =>
      if isVerb && argument = "help".toList then .error (helpOn rest)
      else do readRequest config rest (← take none argument progress)

/-- The request that arguments make. The environment may name a settings file. -/
def Request.read (config : Option Text) (arguments : List Text) : Except Stop Request :=
  readRequest config arguments {}

end ShaderBundle.Command
