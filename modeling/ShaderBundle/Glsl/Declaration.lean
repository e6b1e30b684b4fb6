import ShaderBundle.Glsl.Qualifier

/-!
# Declarations

Variables, blocks, structures and functions, at the top of a shader and within functions.

## What a declaration has to check

Most of what is wrong with a shader is wrong with a declaration: qualifiers that do not go together,
a name that is taken, a layout out of range, an initializer that does not fit. The qualifiers are
read first and taken one by one by what is declared; those that nobody has taken in the end are too
many, and that is found out in one place.

## Main definitions

* `declareLocal` and `declareGlobal` declare one variable.
* `declareFunction` declares a function with or without a body.
* `readDeclaration` reads a declaration, if one stands here. How bodies of functions are read is a
  parameter, as only the top of a shader has any.

## Implementation notes

The qualifiers in front of a declaration belong to its first name: what that name takes is gone for
the names behind it.
-/

namespace ShaderBundle.Glsl

/-! ### Variables -/

/-- The value that an initializer gives, with whether it fits its variable. -/
structure Initial where
  /-- The value. -/
  value : Value
  /-- Whether it has the type of the variable. -/
  fits : Bool
  deriving DecidableEq, Repr

/-- Declares a variable of a function. -/
def declareLocal (q : Qualifiers) (ty : Ty) (name : Text) (line : Nat) (initial? : Option Initial) :
    Reader Unit := do
  let mutable ← match q.storage with
    | .automatic => pure true
    | .const => pure false
    | _ => do
      noteMisuse q.storageLine "Locals cannot have a storage qualifier"
      pure true
  ensure (ty.isConstructible (← get).structs)
  let free ← addName name { ty, origin := .local, place := true, writable := true, mutable }
  unless free do note line (.alreadyDeclared name)
  noteLeftOver q
  if let some initial := initial? then
    -- A constant outside of loops is put into the variable before the function starts.
    if initial.value.fixed && (← get).body.loops = 0 then ensure initial.fits
    else
      ensureLive initial.fits
      setFalls true

/-- Adds a global to those that were declared. -/
def addGlobal (record : GlobalRecord) : Reader Nat := do
  let s ← get
  set { s with globals := s.globals ++ [record] }
  return s.globals.length

/-- How values of a type are interpolated unless a declaration says otherwise. -/
def defaultInterpolation? (ty : Ty) : Option Interpolation :=
  ty.component?.map fun s => if s.isFloat then .perspective else .flat

/-- How an initializer fits a global. Only constants are put in beforehand. -/
def initializerOf : Option Initial → Initializer
  | none => .absent
  | some initial =>
    if !initial.value.fixed then .absent else if initial.fits then .fitting else .unfit

/-- Declares a global that crosses the entry point. -/
def declareCrossing (q : Qualifiers) (ty : Ty) (name? : Option Text) (line : Nat)
    (initial? : Option Initial) (output : Bool) : Reader (Variable × Qualifiers) := do
  let (location?, q) ← q.takeWhole "location"
  let interpolation? := (q.interpolation?.map Prod.fst) <|> defaultInterpolation? ty
  let sampled := q.sampling?.isSome
  let index ← addGlobal
    { name?, ty, space := .internal, initializer := initializerOf initial?, line }
  let crossing : Crossing :=
    { name?, ty, output, binding := .location (location?.getD 0) interpolation? sampled }
  modify fun s => { s with crossings := s.crossings ++ [crossing] }
  return ({ ty, origin := .global index, place := true, writable := true, mutable := output },
    { q with interpolation? := none, sampling? := none })

/-- Declares a constant. -/
def declareConstant (ty : Ty) (name? : Option Text) (line : Nat) (initial? : Option Initial) :
    Reader Variable := do
  match initial? with
  | none => refuseMisuse line "const values must have an initializer"
  | some initial =>
    let s ← get
    let unfit? := if initial.fits then none else some (line, s.constants, name?.getD [])
    set { s with
      constants := s.constants + 1
      unfitConstant? := s.unfitConstant? <|> unfit? }
    return { ty, origin := .constant initial.value.whole?, place := false, writable := false,
             mutable := false }

/-- Where a global with a storage that is not its own stage's is kept. -/
def spaceFor (q : Qualifiers) (ty : Ty) : Reader (Space × Qualifiers) := do
  match q.storage, ty with
  | .buffer, _ => return (.storage, q)
  | .shared, _ => return (.shared, q)
  | .uniform, .image form =>
    if form.access = .storage then
      let (format?, q) := q.takeLayout "format".toList
      if format?.isNone then
        noteMisuse q.storageLine "image types require a format layout qualifier"
      return (.handle, q)
    else return (.handle, q)
  | .uniform, .sampler _ => return (.handle, q)
  | .uniform, _ =>
    let (pushed, q) ← q.takeFlag "push_constant"
    return (if pushed then .pushConstant else .uniform, q)
  | _, _ => return (.internal, q)

/-- Whether a space needs a binding. -/
def Space.isBound : Space → Bool
  | uniform | storage | handle => true
  | _ => false

/-- The binding of a global, which has to have one in most spaces. -/
def bindingFor (q : Qualifiers) (space : Space) (line : Nat) :
    Reader (Option (Nat × Nat) × Qualifiers) := do
  if space.isBound then
    let (number?, q) ← q.takeWhole "binding"
    if number?.isNone then noteMisuse line "uniform/buffer blocks require layout(binding=X)"
    let (set?, q) ← q.takeWhole "set"
    return (number?.map fun number => (set?.getD 0, number), q)
  else return (none, q)

/-- Whether what is kept in a space can be written. -/
def Space.isWritable (readonly : Bool) : Space → Bool
  | storage => !readonly
  | shared | internal => true
  | _ => false

/-- Declares a global that stays within the stage or comes from the outside. -/
def declareResource (q : Qualifiers) (ty : Ty) (name? : Option Text) (line : Nat)
    (initial? : Option Initial) : Reader (Variable × Qualifiers) := do
  let (space, q) ← spaceFor q ty
  let (binding?, q) ← bindingFor q space line
  let index ← addGlobal
    { name?, ty, space, binding?, initializer := initializerOf initial?, line }
  return ({ ty, origin := .global index, place := space ≠ .handle,
            writable := space.isWritable q.readonly, mutable := true }, q)

/-- Declares a global. -/
def declareGlobal (q : Qualifiers) (ty : Ty) (name? : Option Text) (line : Nat)
    (initial? : Option Initial) : Reader (Variable × Qualifiers) := do
  let (meaning, q) ← match q.storage with
    | .input => declareCrossing q ty name? line initial? false
    | .output => declareCrossing q ty name? line initial? true
    | .const => pure (← declareConstant ty name? line initial?, q)
    | _ => declareResource q ty name? line initial?
  if let some name := name? then addGlobalName name meaning
  if let some initial := initial? then
    -- What is not constant is put in when the entry point starts.
    if q.storage ≠ .const && !initial.value.fixed && !initial.fits then
      modify fun s => { s with startSound := false }
  noteLeftOver q
  return (meaning, q)

/-! ### Initializers -/

/-- The type that an initializer needs at a place of a list. -/
def partType (ty : Ty) (index : Nat) : Reader Ty := do
  match ty with
  | .vector _ s => return .scalar s
  | .matrix _ rows s => return .vector rows s
  | .array element _ => return element
  | .struct _ =>
    return (((← membersOf ty).getD [])[index]?.map Prod.snd).getD ty
  | _ => return ty

/-- Whether a list of values makes a value of a type. -/
def listFits (ty : Ty) (values : List Value) : Reader Bool := do
  match ty with
  | .vector size _ => return totalComponents values = size && allComponents values
  | .matrix columns rows s =>
    return partsFit (List.replicate columns (.vector rows s)) values
  | .array element length =>
    return length = some values.length && partsFit (values.map fun _ => element) values
  | .struct _ => return partsFit (((← membersOf ty).getD []).map Prod.snd) values
  | _ => return false

mutual

/-- Reads an initializer for a type. -/
def readInitializer : Nat → Ty → Reader Value
  | 0, _ => exhausted
  | fuel + 1, ty => do
    if ← takes "\x7b" then
      let values ← readInitializerList fuel ty 0
      ensure (← listFits ty values)
      return { ty, fixed := values.all Value.fixed }
    else return (← (← readAssignment fuel).value).convertedTo ty

/-- Reads the values of a list up to the closing brace. -/
def readInitializerList : Nat → Ty → Nat → Reader (List Value)
  | 0, _, _ => exhausted
  | fuel + 1, ty, index => do
    let value ← readInitializer fuel (← partType ty index)
    match ← bump with
    | (.fixed ",", _) =>
      if ← takes "\x7d" then return [value]
      else return value :: (← readInitializerList fuel ty (index + 1))
    | (.fixed "\x7d", _) => return [value]
    | (t, line) => unexpected t line ["Comma", "RightBrace"]

end

/-- Reads with only constant expressions allowed, if a condition holds. -/
def withConstantOnly {α : Type} (only : Bool) (step : Reader α) : Reader α := do
  let before := (← get).constantOnly
  modify fun s => { s with constantOnly := only }
  let result ← step
  modify fun s => { s with constantOnly := before }
  return result

/-- Reads an initializer, if there is one. -/
def readInitial (fuel : Nat) (constant : Bool) (ty : Ty) : Reader (Option Initial) := do
  if ← takes "=" then
    let value ← withConstantOnly constant (readInitializer fuel ty)
    return some { value, fits := value.ty = ty }
  else return none

/-- Reads the names of a declaration up to the semicolon. -/
def readDeclarators (external : Bool) : Nat → Qualifiers → Ty → Reader Unit
  | 0, _, _ => exhausted
  | fuel + 1, q, ty => do
    match ← bump with
    | (.fixed ";", _) => return ()
    | (.identifier name, line) =>
      let ty ← readLengths fuel ty
      let initial? ← readInitial fuel (external && q.storage = .const) ty
      let left ← if external then do
          let (_, left) ← declareGlobal q ty (some name) line initial?
          pure left
        else do
          declareLocal q ty name line initial?
          pure q
      match ← bump with
      | (.fixed ";", _) => return ()
      | (.fixed ",", _) => readDeclarators external fuel left ty
      | (t, line) => unexpected t line ["Comma", "Semicolon"]
    | (t, line) => unexpected t line ["identifier", "Semicolon"]

/-! ### Blocks -/

/-- Declares a block and its members, which can be named on their own. -/
def declareInterfaceBlock (q : Qualifiers) (ty : Ty) (members : List (Text × Ty))
    (name? : Option Text) (line : Nat) : Reader Unit := do
  let (meaning, _) ← declareGlobal q ty name? line none
  for (name, memberTy) in members do
    addGlobalName name { meaning with ty := memberTy, place := true, mutable := true }

/-- Reads a block from behind its opening brace. -/
def readInterfaceBlock (fuel : Nat) (q : Qualifiers) (blockName : Text) (line : Nat) :
    Reader Unit := do
  let (_, q) := q.takeLayout "packing".toList
  let members ← readMembers fuel
  expect "\x7d"
  let ty ← addStruct blockName members
  match ← bump with
  | (.fixed ";", _) => declareInterfaceBlock q ty members none line
  | (.identifier name, _) =>
    let ty ← readLengths fuel ty
    expect ";"
    declareInterfaceBlock q ty members (some name) line
  | (t, line) => unexpected t line ["identifier", "Semicolon"]

/-! ### Functions -/

/-- The passing that a word asks for. -/
def Passing.ofWord? : String → Option Passing
  | "in" => some .in
  | "out" => some .out
  | "inout" => some .inout
  | "const" => some .const
  | _ => none

/-- Reads how a parameter is passed. -/
def readPassing : Reader Passing := do
  match ← next? with
  | some (.fixed spelling) =>
    match Passing.ofWord? spelling with
    | some passing =>
      let _ ← bump
      return passing
    | none => return .in
  | _ => return .in

/-- Whether a parameter begins here. -/
def seesParameter : Reader Bool := do
  if ← seesType then return true
  else match ← next? with
    | some (.fixed spelling) => return (Passing.ofWord? spelling).isSome
    | _ => return false

/-- What the name of a parameter stands for. Parameters are variables of the function, except that
constants and resources are what they are. -/
def parameterVariable (parameter : Parameter) : Variable :=
  let resource := match parameter.ty with
    | .image _ | .sampler _ => true
    | _ => false
  let varies := parameter.passing ≠ .const && !resource
  { ty := parameter.ty, origin := .local, place := varies, writable := varies, mutable := varies }

/-- Reads parameters up to the closing parenthesis, which is left. -/
def readParameters : Nat → Reader (List Parameter)
  | 0 => exhausted
  | fuel + 1 => do
    if ← seesParameter then
      let passing ← readPassing
      let (ty, _) ← readSolidType fuel
      match ← peek with
      | .fixed "," =>
        let _ ← bump
        return { ty, passing } :: (← readParameters fuel)
      | .identifier _ =>
        let (name, _) ← expectIdentifier
        let parameter : Parameter := { ty := ← readLengths fuel ty, passing }
        let _ ← addName name (parameterVariable parameter)
        if ← takes "," then return parameter :: (← readParameters fuel)
        else return [parameter]
      | _ => return []
    else return []

/-- Whether two functions take the same parameters. -/
def sameParameters (a b : List Parameter) : Bool :=
  a.map Parameter.ty = b.map Parameter.ty

/-- A function with its body put in. -/
def Function.withBody (function : Function) (body : Body) : Function :=
  { function with
    defined := true
    sound := body.sound && (body.result?.isNone || !body.falls)
    effects := body.effects }

/-- Declares a function, with its body if it has one. -/
def declareFunction (function : Function) (body? : Option Body) : Reader Unit := do
  let s ← get
  let complete (known : Function) : Function := match body? with
    | some body => known.withBody body
    | none => known
  match s.functions.findIdx? fun known =>
      known.name = function.name && sameParameters known.parameters function.parameters with
  | none => set { s with functions := s.functions ++ [complete function] }
  | some index =>
    match s.functions[index]?, body? with
    | some known, some _ =>
      if known.defined then noteMisuse function.line "Function already defined"
      else set { s with functions := s.functions.set index (complete known) }
    | _, _ => noteMisuse function.line "Prototype already defined"

/-- Reads with the names and the state of a new function. -/
def withFunction {α : Type} (result? : Option Ty) (step : Reader α) : Reader (α × Body) := do
  let before ← get
  let globals := before.scopes.drop (before.scopes.length - 1)
  set { before with scopes := [] :: globals, body := { result? }, constantOnly := false }
  let result ← step
  let after ← get
  set { after with
    scopes := before.scopes.dropLast ++ after.scopes.drop (after.scopes.length - 1)
    body := before.body
    constantOnly := before.constantOnly }
  return (result, after.body)

/-- Reads a function from behind the parenthesis that opens its parameters. -/
def readFunction (readBody? : Option (Reader Unit)) (fuel : Nat) (name : Text) (result? : Option Ty)
    (line : Nat) : Reader Unit := do
  let ((parameters, defined), body) ← withFunction result? do
    let parameters ← if ← takes "void" then pure [] else readParameters fuel
    expect ")"
    match ← bump, readBody? with
    | (.fixed ";", _), _ => return (parameters, false)
    | (.fixed "\x7b", _), some readBody =>
      readBody
      return (parameters, true)
    | (t, line), some _ => unexpected t line ["LeftBrace", "Semicolon"]
    | (t, line), none => unexpected t line ["Semicolon"]
  declareFunction { name, parameters, result?, defined := false, line }
    (if defined then some body else none)

/-! ### Whole declarations -/

/-- Sets the size of a work group where qualifiers say so. -/
def setWorkgroup (q : Qualifiers) : Reader Qualifiers := do
  let (x?, q) ← q.takeWhole "local_size_x"
  let (y?, q) ← q.takeWhole "local_size_y"
  let (z?, q) ← q.takeWhole "local_size_z"
  modify fun s =>
    let (x, y, z) := s.workgroup
    { s with workgroup := (x?.getD x, y?.getD y, z?.getD z) }
  return q

/-- Reads variables of a type, of which there are none without a type. -/
def readVariables (external : Bool) (fuel : Nat) (q : Qualifiers) (ty? : Option Ty) (line : Nat) :
    Reader Unit := do
  match ty? with
  | none => noteMisuse line "Declaration cannot have void type"
  | some ty =>
    let _ ← takes ","
    readDeclarators external fuel q ty

/-- Reads what follows a type: a function or variables. -/
def readTyped (readBody? : Option (Reader Unit)) (fuel : Nat) (q : Qualifiers) : Reader Unit := do
  let (ty?, line) ← readType fuel
  match ← bump with
  | (.identifier name, nameLine) =>
    match ← peek with
    | .fixed "(" =>
      let _ ← bump
      readFunction readBody? fuel name ty? line
    | _ =>
      if ty?.isSome then giveBack (.identifier name) nameLine
      readVariables readBody?.isSome fuel q ty? line
  | (t, tLine) =>
    if ty?.isSome then giveBack t tLine
    readVariables readBody?.isSome fuel q ty? line

/-- Reads what follows qualifiers without a type: a block, or a declaration of qualifiers alone. -/
def readUntyped (fuel : Nat) (q : Qualifiers) : Reader Unit := do
  match ← bump with
  | (.identifier name, line) =>
    if ← takes "\x7b" then readInterfaceBlock fuel q name line
    else if q.invariant?.isSome then
      let _ ← findVariable name line
      noteLeftOver { q with invariant? := none }
      expect ";"
    else refuse line (.notImplemented "variable qualifier")
  | (.fixed ";", _) =>
    let q ← setWorkgroup q
    let (_, q) ← q.takeFlag "early_fragment_tests"
    noteLeftOver q
  | (t, line) => unexpected t line ["identifier", "Semicolon"]

/-- Reads a statement of precision. -/
def readPrecision (fuel : Nat) : Reader Unit := do
  let _ ← bump
  match ← bump with
  | (.fixed "highp", _) | (.fixed "mediump", _) | (.fixed "lowp", _) =>
    let (ty, line) ← readSolidType fuel
    unless ty = .scalar .float || ty = .scalar .double || ty = .scalar .int do
      noteMisuse line "Precision statement can only work on floats and ints"
    expect ";"
  | (t, line) =>
    unexpected t line
      ["PrecisionQualifier(High)", "PrecisionQualifier(Medium)", "PrecisionQualifier(Low)"]

/-- Reads a declaration, if one stands here. Functions have bodies where a way to read them is
given. -/
def readDeclaration (readBody? : Option (Reader Unit)) (fuel : Nat) : Reader Bool := do
  if (← seesQualifier) || (← seesType) then
    let q ← readQualifiers fuel
    if ← seesType then readTyped readBody? fuel q
    else readUntyped fuel q
    return true
  else if ← sees "precision" then
    readPrecision fuel
    return true
  else return false

end ShaderBundle.Glsl
