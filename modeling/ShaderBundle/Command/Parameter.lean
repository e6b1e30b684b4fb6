import ShaderBundle.Bundle.Stage
import ShaderBundle.Settings.DurationText

/-!
# Parameters of the command line

The program is told what to do by a verb and its parameters: switches, options with a value and
operands.

## Main definitions

* `Verb` is what the program can be told to do.
* `Parameter` lists the parameters; `Parameter.form` says how each of them is given.
* `Value` is what a parameter may hold and `Parameter.read` makes one from an argument.
* `ValueFault` is what is wrong with an argument that is no value.
-/

namespace ShaderBundle.Command

/-! ### Verbs and parameters -/

/-- What the program can be told to do. -/
inductive Verb where
  | check
  | split
  | watch
  deriving DecidableEq, Repr

/-- Every verb, in the order of the help text. -/
def Verb.all : List Verb :=
  [check, split, watch]

/-- The verb as an argument. -/
def Verb.name : Verb → String
  | check => "check"
  | split => "split"
  | watch => "watch"

/-- The verb that an argument names. -/
def Verb.ofName? (argument : Text) : Option Verb :=
  all.find? fun verb => verb.name.toList == argument

/-- A parameter of the program or of one of its verbs. -/
inductive Parameter where
  /-- The settings file. -/
  | config
  /-- Whether files are compiled too. -/
  | compile
  /-- Whether the report is JSON. -/
  | json
  /-- The only stage that is asked for. -/
  | stage
  /-- A root that comes before those of the settings. -/
  | root
  /-- How often changes are looked for. -/
  | interval
  /-- How many times changes are looked for. -/
  | polls
  /-- The files to check. -/
  | files
  /-- The file to split. -/
  | file
  /-- The shaders to watch. -/
  | names
  /-- Whether help is asked for. -/
  | help
  /-- Whether the version is asked for. -/
  | version
  deriving DecidableEq, Repr

/-- How a parameter is given. -/
inductive Form where
  /-- By a word alone. -/
  | switch (word : String)
  /-- By a word and a value. -/
  | option (word valueName : String)
  /-- By a value alone, or by many. -/
  | operand (valueName : String) (many : Bool)
  deriving DecidableEq, Repr

/-- The form in messages. -/
def Form.label : Form → Text
  | switch word => "--".toList ++ word.toList
  | option word valueName => "--".toList ++ word.toList ++ " <".toList ++ valueName.toList ++ ['>']
  | operand valueName false => '<' :: valueName.toList ++ ['>']
  | operand valueName true => '<' :: valueName.toList ++ ">...".toList

namespace Parameter

/-- How the parameter is given. -/
def form : Parameter → Form
  | config => .option "config" "FILE"
  | compile => .switch "compile"
  | json => .switch "json"
  | stage => .option "stage" "KIND"
  | root => .option "root" "DIR"
  | interval => .option "interval" "DURATION"
  | polls => .option "polls" "N"
  | files => .operand "FILE" true
  | file => .operand "FILE" false
  | names => .operand "NAME" true
  | help => .switch "help"
  | version => .switch "version"

/-- The parameter in messages. -/
def label (parameter : Parameter) : Text :=
  parameter.form.label

/-- The word behind two dashes that gives the parameter. -/
def word? (parameter : Parameter) : Option Text :=
  match parameter.form with
  | .switch word | .option word _ => some word.toList
  | .operand _ _ => none

/-- Whether the parameter may be given more than once. -/
def isRepeatable : Parameter → Bool
  | root | files | names => true
  | _ => false

end Parameter

/-- The switches and options that a verb knows, or the program itself where there is no verb. -/
def optionsOf : Option Verb → List Parameter
  | none => [.config, .help, .version]
  | some .check => [.config, .compile, .json, .help]
  | some .split => [.config, .stage, .help]
  | some .watch => [.config, .root, .interval, .polls, .help]

/-- The operand of a verb. The program itself has none. -/
def operandOf? : Option Verb → Option Parameter
  | none => none
  | some .check => some .files
  | some .split => some .file
  | some .watch => some .names

/-! ### Values -/

/-- The first number that does not fit a word of 64 bits. -/
def countBound : Nat := 18446744073709551616

/-- What is wrong with an argument that is no value. -/
inductive ValueFault where
  /-- A path has to have characters. -/
  | noPath
  /-- No stage has the name. -/
  | unknownStage (name : Text)
  /-- The text is no duration. -/
  | badInterval (cause : DurationError)
  /-- The duration is zero. -/
  | noInterval
  /-- A number has to have digits. -/
  | noDigits
  /-- A number has to have digits only. -/
  | badDigit
  /-- The number does not fit its word. -/
  | tooLarge
  deriving DecidableEq, Repr

/-- The fault in words. A path that is missing is told in other words, by who reports it. -/
def ValueFault.message : ValueFault → Text
  | noPath => []
  | unknownStage name => "unknown stage '".toList ++ name ++ "' (expected one of: ".toList ++
      (Stage.listNames Stage.all).toList ++ [')']
  | badInterval cause => cause.message
  | noInterval => "interval must be greater than zero".toList
  | noDigits => "cannot parse integer from empty string".toList
  | badDigit => "invalid digit found in string".toList
  | tooLarge => "number too large to fit in target type".toList

/-- What a parameter holds. -/
inductive Value where
  /-- A switch holds nothing but that it was given. -/
  | given
  | text (s : Text)
  | stage (s : Stage)
  | interval (d : Duration)
  | count (n : Nat)
  deriving DecidableEq, Repr

/-- A path. -/
def readPath (argument : Text) : Except ValueFault Value :=
  if argument.isEmpty then .error .noPath else .ok (.text argument)

/-- A stage by its name in pragmas. -/
def readStage (argument : Text) : Except ValueFault Value :=
  match Stage.ofName? argument with
  | some stage => .ok (.stage stage)
  | none => .error (.unknownStage argument)

/-- An interval that is longer than nothing. -/
def readInterval (argument : Text) : Except ValueFault Value :=
  match Duration.parse argument with
  | .error cause => .error (.badInterval cause)
  | .ok duration => if duration.isZero then .error .noInterval else .ok (.interval duration)

/-- The number that the digits go on to denote. The first fault counts. -/
def readDigits (value : Nat) : Text → Except ValueFault Value
  | [] => .ok (.count value)
  | c :: rest =>
    if !isDigit c then .error .badDigit
    else if 10 * value + digitValue c < countBound then readDigits (10 * value + digitValue c) rest
    else .error .tooLarge

/-- A number that fits a word of 64 bits. A leading plus sign is allowed. -/
def readCount (argument : Text) : Except ValueFault Value :=
  match argument with
  | [] => .error .noDigits
  | ['+'] => .error .badDigit
  | '+' :: digits => readDigits 0 digits
  | digits => readDigits 0 digits

/-- What an argument gives for a parameter. -/
def Parameter.read (parameter : Parameter) (argument : Text) : Except ValueFault Value :=
  match parameter with
  | config | root | files | file => readPath argument
  | names => .ok (.text argument)
  | stage => readStage argument
  | interval => readInterval argument
  | polls => readCount argument
  | compile | json | help | version => .ok .given

end ShaderBundle.Command
