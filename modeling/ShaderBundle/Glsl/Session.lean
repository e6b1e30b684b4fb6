import ShaderBundle.Bundle.Stage
import ShaderBundle.Glsl.Preprocessed
import ShaderBundle.Glsl.Term

/-!
# The reading of a shader

A shader is read once, from front to back. What was declared so far decides how the rest is read, so
all of it is part of the reader's state.

Faults are of two kinds. Some end the reading: they are thrown. Others are noted, and the shader is
refused at its end. Apart from both, a function can be *unsound*: it reads well, but its statements
do not fit together, and the shader is refused by a later check.

## Main definitions

* `Session` is what is known while a shader is read, `Body` the part about the present function.
* `Reader` is a step of reading.
* `next?`, `peek`, `bump` and `expect` take tokens.

## Implementation notes

Recursion through a shader spends fuel, of which there is more than tokens can ask for. Running out
is a fault of its own, so that no answer is made up.
-/

namespace ShaderBundle.Glsl

/-- Where a global is kept. -/
inductive Space where
  | uniform
  | storage
  | handle
  | shared
  | pushConstant
  | internal
  deriving DecidableEq, Repr

/-- How an initializer fits its variable. -/
inductive Initializer where
  | absent
  | fitting
  | unfit
  deriving DecidableEq, Repr

/-- A declared global. -/
structure GlobalRecord where
  /-- The name, unless it is a block without an instance name. -/
  name? : Option Text
  /-- The type. -/
  ty : Ty
  /-- Where it is kept. -/
  space : Space
  /-- The set and the number of its binding. -/
  binding? : Option (Nat × Nat) := none
  /-- How its initializer fits. -/
  initializer : Initializer := .absent
  /-- The line of its declaration. -/
  line : Nat
  deriving DecidableEq, Repr

/-- How values between stages are interpolated. -/
inductive Interpolation where
  | flat
  | linear
  | perspective
  deriving DecidableEq, Repr

/-- How a value at the entry point is bound. -/
inductive Binding where
  | location (number : Nat) (interpolation? : Option Interpolation) (sampled : Bool)
  | builtin (name : Text)
  deriving DecidableEq, Repr

/-- A global that crosses the entry point. -/
structure Crossing where
  /-- The name of a declared global; values of the language have none here. -/
  name? : Option Text
  /-- The type. -/
  ty : Ty
  /-- How it is bound. -/
  binding : Binding
  /-- Whether it leaves the stage. -/
  output : Bool
  deriving DecidableEq, Repr

/-- How a parameter is passed. -/
inductive Passing where
  | in
  | out
  | inout
  | const
  deriving DecidableEq, Repr

/-- A parameter of a function. -/
structure Parameter where
  /-- The type. -/
  ty : Ty
  /-- How it is passed. -/
  passing : Passing
  deriving DecidableEq, Repr

/-- What the body of a function uses. -/
structure Effects where
  /-- Whether it only runs in a fragment stage. -/
  fragmentOnly : Bool := false
  /-- Whether it only runs in a compute stage. -/
  computeOnly : Bool := false
  /-- The globals it uses, by their places. -/
  globals : List Nat := []
  /-- The functions it calls, by their places. -/
  calls : List Nat := []
  deriving DecidableEq, Repr

/-- A declared function. -/
structure Function where
  /-- The name. -/
  name : Text
  /-- The parameters. -/
  parameters : List Parameter
  /-- What it returns, if anything. -/
  result? : Option Ty
  /-- Whether it has a body. -/
  defined : Bool
  /-- Whether its statements fit together. -/
  sound : Bool := true
  /-- What its body uses. -/
  effects : Effects := {}
  /-- The line of its first declaration. -/
  line : Nat
  deriving DecidableEq, Repr

/-- The names of one block. -/
abbrev Scope := List (Text × Variable)

/-- What is known of the function that is being read. -/
structure Body where
  /-- Whether its statements fit together so far. -/
  sound : Bool := true
  /-- What it uses so far. -/
  effects : Effects := {}
  /-- Whether the present statement can be reached: none can behind a jump in the same block. -/
  live : Bool := true
  /-- Whether a function without a return value would be left at the end of the present block. -/
  falls : Bool := true
  /-- How many loops are around the present statement. -/
  loops : Nat := 0
  /-- How many loops and switches are around it. -/
  breakable : Nat := 0
  /-- What the function returns. -/
  result? : Option Ty := none
  deriving DecidableEq, Repr

/-- What is known while a shader is read. -/
structure Session where
  /-- The kind of stage. -/
  stage : Stage
  /-- What is left to read. -/
  rest : List (Placed Item)
  /-- The line of the last token. -/
  lastLine : Nat := 1
  /-- The faults that were noted. -/
  faults : List Fault := []
  /-- The version of the language. -/
  version : Nat := 440
  /-- The declared structures and blocks. -/
  structs : List Struct := []
  /-- The structures that have become type names, the last one first. -/
  typeNames : List (Text × Nat) := []
  /-- The lines at which types were first named. -/
  typeLines : List (Ty × Nat) := []
  /-- The names in sight, block by block, the innermost first. The last block is that of globals. -/
  scopes : List Scope := [[]]
  /-- The declared globals. -/
  globals : List GlobalRecord := []
  /-- The globals that cross the entry point. -/
  crossings : List Crossing := []
  /-- The constants whose initializers do not fit, with their lines and places. -/
  unfitConstant? : Option (Nat × Nat × Text) := none
  /-- How many constants there are. -/
  constants : Nat := 0
  /-- The declared functions. -/
  functions : List Function := []
  /-- The function that is being read. -/
  body : Body := {}
  /-- Whether only constant expressions are allowed here. -/
  constantOnly : Bool := false
  /-- Whether what runs before the main function fits together. -/
  startSound : Bool := true
  /-- The size of a work group. -/
  workgroup : Nat × Nat × Nat := (1, 1, 1)

/-- A step of reading. -/
abbrev Reader := ExceptT Fault (StateM Session)

/-- Notes a fault and goes on. -/
def note (line : Nat) (cause : Cause) : Reader Unit :=
  modify fun s => { s with faults := s.faults ++ [⟨line, cause⟩] }

/-- Notes a misuse and goes on. -/
def noteMisuse (line : Nat) (reason : String) : Reader Unit :=
  note line (.misuse reason.toList)

/-- Ends the reading with a fault. -/
def refuse {α : Type} (line : Nat) (cause : Cause) : Reader α :=
  throw ⟨line, cause⟩

/-- Ends the reading with a misuse. -/
def refuseMisuse {α : Type} (line : Nat) (reason : String) : Reader α :=
  refuse line (.misuse reason.toList)

/-- The fault of a reading that ran out of fuel. -/
def exhausted {α : Type} : Reader α := do
  refuseMisuse (← get).lastLine "Internal error: the shader is nested too deeply"

/-! ### Tokens -/

/-- Lets directives speak up to the next token. -/
def settleItems (s : Session) : List (Placed Item) → Session
  | ⟨.version number, _⟩ :: rest => settleItems { s with version := number } rest
  | ⟨.fault cause, line⟩ :: rest =>
    settleItems { s with faults := s.faults ++ [⟨line, cause⟩] } rest
  | rest => { s with rest }

/-- The next token without taking it. -/
def next? : Reader (Option Token) := do
  let s := settleItems (← get) (← get).rest
  set s
  match s.rest with
  | ⟨.token t, _⟩ :: _ => return some t
  | _ => return none

/-- The next token without taking it. There has to be one. -/
def peek : Reader Token := do
  match ← next? with
  | some t => return t
  | none => refuse (← get).lastLine .endOfFile

/-- Takes the next token, with its line. -/
def bump : Reader (Token × Nat) := do
  let t ← peek
  let s ← get
  match s.rest with
  | ⟨_, line⟩ :: rest =>
    set { s with rest, lastLine := line }
    return (t, line)
  | [] => refuse s.lastLine .endOfFile

/-- Puts the last token back. -/
def giveBack (t : Token) (line : Nat) : Reader Unit :=
  modify fun s => { s with rest := ⟨.token t, line⟩ :: s.rest }

/-- Whether the next token is a fixed one. -/
def sees (spelling : String) : Reader Bool :=
  return (← next?) = some (.fixed spelling)

/-- Takes the next token if it is a fixed one. -/
def takes (spelling : String) : Reader Bool := do
  if ← sees spelling then
    let _ ← bump
    return true
  else return false

/-- The fault of a token that does not belong here. -/
def unexpected {α : Type} (found : Token) (line : Nat) (expected : List String) : Reader α :=
  refuse line (.unexpected found expected)

/-- Takes a fixed token, which has to be next. -/
def expect (spelling : String) : Reader Unit := do
  let (t, line) ← bump
  if t = .fixed spelling then return ()
  else unexpected t line [fixedName spelling]

/-- Takes an identifier, which has to be next. -/
def expectIdentifier : Reader (Text × Nat) := do
  match ← bump with
  | (.identifier name, line) => return (name, line)
  | (t, line) => unexpected t line ["identifier"]

/-- The tokens that are left, each a step of fuel. -/
def remaining : Reader Nat :=
  return (← get).rest.length

/-! ### The function that is being read -/

/-- Changes what is known of the present function. -/
def modifyBody (f : Body → Body) : Reader Unit :=
  modify fun s => { s with body := f s.body }

/-- The present function does not fit together. -/
def unsound : Reader Unit :=
  modifyBody fun body => { body with sound := false }

/-- The present function does not fit together unless a condition holds. -/
def ensure (condition : Bool) : Reader Unit := do
  unless condition do unsound

/-- The same for a statement, which counts only where it can be reached. -/
def ensureLive (condition : Bool) : Reader Unit := do
  if (← get).body.live then ensure condition

/-- Changes what the present function uses. -/
def modifyEffects (f : Effects → Effects) : Reader Unit :=
  modifyBody fun body => { body with effects := f body.effects }

/-- The present function uses a global. -/
def useGlobal (index : Nat) : Reader Unit :=
  modifyEffects fun effects => { effects with globals := index :: effects.globals }

/-- Sets whether the end of the present block can be left. -/
def setFalls (falls : Bool) : Reader Unit := do
  if (← get).body.live then modifyBody fun body => { body with falls }

/-- Nothing behind this in the same block can be reached. -/
def cutOff : Reader Unit :=
  modifyBody fun body => { body with live := false }

/-! ### Names -/

/-- What a name stands for among the names in sight. -/
def lookupName? (name : Text) : List Scope → Option Variable
  | [] => none
  | scope :: outer => scope.lookup name <|> lookupName? name outer

/-- Adds a name to the innermost block. Says whether it was free there. -/
def addName (name : Text) (meaning : Variable) : Reader Bool := do
  let s ← get
  match s.scopes with
  | [] =>
    set { s with scopes := [[(name, meaning)]] }
    return true
  | scope :: outer =>
    set { s with scopes := ((name, meaning) :: scope) :: outer }
    return (scope.lookup name).isNone

/-- The blocks with a name added to the outermost. -/
def addOutermost (name : Text) (meaning : Variable) : List Scope → List Scope
  | [] => [[(name, meaning)]]
  | [scope] => [(name, meaning) :: scope]
  | scope :: outer => scope :: addOutermost name meaning outer

/-- Adds a name to the globals. -/
def addGlobalName (name : Text) (meaning : Variable) : Reader Unit :=
  modify fun s => { s with scopes := addOutermost name meaning s.scopes }

/-- Reads with one more block of names. -/
def withScope {α : Type} (step : Reader α) : Reader α := do
  modify fun s => { s with scopes := [] :: s.scopes }
  let result ← step
  modify fun s => { s with scopes := s.scopes.tail }
  return result

/-- Keeps the line at which a type is named for the first time. -/
def noteType (ty : Ty) (line : Nat) : Reader Unit :=
  modify fun s =>
    if (s.typeLines.lookup ty).isSome then s else { s with typeLines := (ty, line) :: s.typeLines }

/-- The members of a structure. -/
def membersOf (ty : Ty) : Reader (Option (List (Text × Ty))) := do
  match ty with
  | .struct index => return (← get).structs[index]?.map Struct.members
  | _ => return none

/-- Adds a structure or a block and gives its type. -/
def addStruct (name : Text) (members : List (Text × Ty)) : Reader Ty := do
  let s ← get
  set { s with structs := s.structs ++ [Struct.ofMembers s.structs name members] }
  return .struct s.structs.length

end ShaderBundle.Glsl
