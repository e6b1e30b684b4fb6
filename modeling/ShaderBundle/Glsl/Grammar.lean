import ShaderBundle.Glsl.Meaning

/-!
# Expressions and types

How expressions and types are read off the tokens. The two depend on each other: a constructor
begins with a type, and the length of an array is an expression.

## Reading and meaning

What is read here is a term and no value. Names of variables are looked up on the way, because what
a name stands for depends on where it stands; calls are left as they are until the types of their
arguments are known. The length of an array is the one place where a meaning is needed in the middle
of reading, and it has to be a constant.

## Main definitions

* `readExpression`, `readAssignment` and `readType` read one of each.
* `findVariable` is what a name in an expression stands for. Variables of the language come into
  being when they are named for the first time.

## Implementation notes

Every step that goes down the grammar spends fuel. A token is taken after at most a handful of
steps, so `withFuel` grants a multiple of the tokens that are left.

Binary operators are read by how tightly they bind, from the loosest on, with one definition for all
of them. The other levels of the grammar have a definition each.
-/

namespace ShaderBundle.Glsl

/-- Carries out a step with fuel for everything that is left to read. -/
def withFuel {α : Type} (step : Nat → Reader α) : Reader α := do
  step (16 * (← remaining) + 32)

/-! ### Names -/

/-- A variable of the language: its type, whether it may be written, and whether it leaves the
stage. -/
def builtinVariable? (name : String) : Option (Ty × Bool) :=
  match name with
  | "gl_Position" => some (.vector 4 .float, true)
  | "gl_PointSize" | "gl_FragDepth" => some (.scalar .float, true)
  | "gl_ClipDistance" | "gl_CullDistance" => some (.array (.scalar .float) none, true)
  | "gl_FragCoord" => some (.vector 4 .float, false)
  | "gl_PointCoord" => some (.vector 2 .float, false)
  | "gl_FrontFacing" => some (.scalar .bool, false)
  | "gl_GlobalInvocationID" | "gl_NumWorkGroups" | "gl_WorkGroupSize" | "gl_WorkGroupID"
  | "gl_LocalInvocationID" => some (.vector 3 .uint, false)
  | "gl_BaseVertex" | "gl_BaseInstance" | "gl_PrimitiveID" | "gl_InstanceIndex" | "gl_VertexIndex"
  | "gl_SampleID" | "gl_LocalInvocationIndex" | "gl_DrawID" => some (.scalar .uint, false)
  | _ => none

/-- Declares a variable of the language. -/
def declareBuiltin (name : Text) (line : Nat) (ty : Ty) (output : Bool) : Reader Variable := do
  let s ← get
  let meaning : Variable :=
    { ty, origin := .global s.globals.length, place := true, writable := true, mutable := output }
  let record : GlobalRecord := { name? := some name, ty, space := .internal, line }
  let crossing : Crossing := { name? := none, ty, binding := .builtin name, output }
  set { s with globals := s.globals ++ [record], crossings := s.crossings ++ [crossing] }
  addGlobalName name meaning
  noteType ty line
  return meaning

/-- What a name stands for. -/
def findVariable (name : Text) (line : Nat) : Reader Variable := do
  match lookupName? name (← get).scopes with
  | some meaning => return meaning
  | none =>
    match builtinVariable? (String.ofList name) with
    | some (ty, output) => declareBuiltin name line ty output
    | none => refuse line (.unknownVariable name)

/-- Whether a type begins here. -/
def seesType : Reader Bool := do
  match ← next? with
  | some (.type _) => return true
  | some (.identifier name) => return ((← get).typeNames.lookup name).isSome
  | some (.fixed spelling) => return spelling = "void" || spelling = "struct"
  | _ => return false

/-! ### Literals -/

/-- A literal at a token, if there is one. -/
def readLiteral (line : Nat) : Token → Reader (Option Term)
  | .int value signed =>
    return some (.literal line ⟨if signed then .int else .uint, some (value : Int)⟩)
  | .float _ width => do
    if width ≠ 32 then
      noteMisuse line
        "Unsupported floating-point value (expected single-precision floating-point number)"
    return some (.literal line ⟨.float, none⟩)
  | .bool _ => return some (.literal line ⟨.bool, none⟩)
  | _ => return none

/-- The type of an array whose length is how many values it is made of. -/
def lengthFromArguments (line : Nat) (ty : Ty) (count : Nat) : Reader Ty := do
  match ty with
  | .array element none =>
    if count = 0 then refuseMisuse line "There must be at least one argument"
    else return .array element (some count)
  | _ => return ty

/-! ### Structures -/

/-- Declares a structure and makes it a type name. -/
def declareStruct (name : Text) (members : List (Text × Ty)) : Reader Ty := do
  let index := (← get).structs.length
  let ty ← addStruct name members
  modify fun s => { s with typeNames := (name, index) :: s.typeNames }
  return ty

/-- Reads with only constant expressions allowed, and only globals in sight. -/
def withConstants {α : Type} (step : Reader α) : Reader α := do
  let before ← get
  set { before with
    constantOnly := true
    scopes := before.scopes.drop (before.scopes.length - 1) }
  let result ← step
  modify fun s => { s with
    constantOnly := before.constantOnly
    scopes := before.scopes.dropLast ++ s.scopes }
  return result

mutual

/-- Reads the arguments of a call from behind the opening parenthesis. -/
def readArguments : Nat → Reader (List Term)
  | 0 => exhausted
  | fuel + 1 => do
    if ← takes ")" then return []
    else readMoreArguments fuel

/-- Reads at least one more argument. -/
def readMoreArguments : Nat → Reader (List Term)
  | 0 => exhausted
  | fuel + 1 => do
    let argument ← readAssignment fuel
    match ← bump with
    | (.fixed ",", _) => return argument :: (← readMoreArguments fuel)
    | (.fixed ")", _) => return [argument]
    | (t, line) => unexpected t line ["Comma", "RightParen"]

/-- Reads a literal or an expression in parentheses. -/
def readPrimary : Nat → Reader Term
  | 0 => exhausted
  | fuel + 1 => do
    let (t, line) ← bump
    if t = .fixed "(" then
      let inner ← readExpression fuel
      expect ")"
      return inner
    else
      match ← readLiteral line t with
      | some term => return term
      | none =>
        unexpected t line ["LeftParen", "integer literal", "float literal", "bool literal"]

/-- Reads a constructor from its type on. -/
def readConstructor : Nat → Reader Term
  | 0 => exhausted
  | fuel + 1 => do
    let (ty, line) ← readSolidType fuel
    expect "("
    let arguments ← readArguments fuel
    return .construct line (← lengthFromArguments line ty arguments.length) arguments

/-- Reads a name or a call. -/
def readNamed : Nat → Reader Term
  | 0 => exhausted
  | fuel + 1 => do
    let (name, line) ← expectIdentifier
    if ← takes "(" then return .call line name (← readArguments fuel)
    else return .named line (← findVariable name line)

/-- Reads an expression with everything that can be put behind one. -/
def readPostfix : Nat → Reader Term
  | 0 => exhausted
  | fuel + 1 => do
    if ← seesType then readSuffixes fuel (← readConstructor fuel)
    else
      match ← peek with
      | .identifier _ => readSuffixes fuel (← readNamed fuel)
      | _ => readSuffixes fuel (← readPrimary fuel)

/-- Reads indices, fields, methods and counting steps behind a term. -/
def readSuffixes : Nat → Term → Reader Term
  | 0, _ => exhausted
  | fuel + 1, base => do
    match ← peek with
    | .fixed "[" =>
      let (_, line) ← bump
      let index ← readExpression fuel
      expect "]"
      readSuffixes fuel (.access line base index)
    | .fixed "." =>
      let (_, line) ← bump
      let (field, _) ← expectIdentifier
      if ← takes "(" then
        readSuffixes fuel (.method line base field (← readArguments fuel))
      else readSuffixes fuel (.select line base field)
    | .fixed "++" | .fixed "--" =>
      let (_, line) ← bump
      readSuffixes fuel (.update line base)
    | _ => return base

/-- Reads an expression with everything that can be put in front of one. -/
def readUnary : Nat → Reader Term
  | 0 => exhausted
  | fuel + 1 => do
    match ← peek with
    | .fixed "+" =>
      let _ ← bump
      readUnary fuel
    | .fixed "-" =>
      let (_, line) ← bump
      return .unary line .negate (← readUnary fuel)
    | .fixed "!" =>
      let (_, line) ← bump
      return .unary line .logicalNot (← readUnary fuel)
    | .fixed "~" =>
      let (_, line) ← bump
      return .unary line .bitNot (← readUnary fuel)
    | .fixed "++" | .fixed "--" =>
      let (_, line) ← bump
      return .update line (← readUnary fuel)
    | _ => readPostfix fuel

/-- Reads the operators behind a left operand that bind at least so tightly. -/
def readOperators : Nat → Nat → Term → Reader Term
  | 0, _, _ => exhausted
  | fuel + 1, least, left => do
    match ← peek with
    | .fixed spelling =>
      match Operator.ofSpelling? spelling with
      | some (operator, level) =>
        if level < least then return left
        else
          let _ ← bump
          let operand ← readUnary fuel
          let right ← readOperators fuel (level + 1) operand
          readOperators fuel least (.binary left.line operator left right)
      | none => return left
    | _ => return left

/-- Reads what follows a first operand, up to a choice between two. -/
def readConditional : Nat → Term → Reader Term
  | 0, _ => exhausted
  | fuel + 1, first => do
    let condition ← readOperators fuel 0 first
    if ← takes "?" then
      let accept ← readExpression fuel
      expect ":"
      let reject ← readAssignment fuel
      return .conditional condition.line condition accept reject
    else return condition

/-- Reads an assignment or what is none. -/
def readAssignment : Nat → Reader Term
  | 0 => exhausted
  | fuel + 1 => do
    let target ← readUnary fuel
    match ← peek with
    | .fixed spelling =>
      if spelling = "=" then
        let _ ← bump
        return .assign target.line target (← readAssignment fuel)
      else match Operator.ofAssignment? spelling with
        | some operator =>
          let _ ← bump
          let right ← readAssignment fuel
          return .assign target.line target (.binary target.line operator target right)
        | none => readConditional fuel target
    | _ => readConditional fuel target

/-- Reads an expression. Of several between commas the last one counts. -/
def readExpression : Nat → Reader Term
  | 0 => exhausted
  | fuel + 1 => do
    let term ← readAssignment fuel
    match ← peek with
    | .fixed "," =>
      let _ ← bump
      readExpression fuel
    | _ => return term

/-- Reads a constant expression. -/
def readConstant : Nat → Reader (Value × Nat)
  | 0 => exhausted
  | fuel + 1 =>
    withConstants do
      let term ← readConditional fuel (← readUnary fuel)
      return (← term.value, term.line)

/-- Reads a constant natural number. -/
def readCount : Nat → Reader (Nat × Nat)
  | 0 => exhausted
  | fuel + 1 => do
    let (value, line) ← readConstant fuel
    match value.ty, value.whole? with
    | .scalar .int, some (.ofNat n) | .scalar .uint, some (.ofNat n) => return (n, line)
    | .scalar .int, some _ => refuseMisuse line "int constant overflows"
    | _, _ => refuseMisuse line "Expected a uint constant"

/-- Reads the lengths that make an array of a type, if there are any. -/
def readLengths : Nat → Ty → Reader Ty
  | 0, _ => exhausted
  | fuel + 1, ty => do
    if ← takes "[" then
      if ← takes "]" then readLengths fuel (.array ty none)
      else
        let (length, line) ← readCount fuel
        if length = 0 then refuseMisuse line "Array size must be greater than zero"
        else
          expect "]"
          readLengths fuel (.array ty (some length))
    else return ty

/-- Reads the names of the members of one type. -/
def readMemberNames : Nat → Ty → Reader (List (Text × Ty))
  | 0, _ => exhausted
  | fuel + 1, ty => do
    let (name, _) ← expectIdentifier
    let member := (name, ← readLengths fuel ty)
    if ← takes "," then return member :: (← readMemberNames fuel ty)
    else
      expect ";"
      return [member]

/-- Reads the members of a structure up to the closing brace. -/
def readMembers : Nat → Reader (List (Text × Ty))
  | 0 => exhausted
  | fuel + 1 => do
    let (ty, _) ← readSolidType fuel
    let members ← readMemberNames fuel ty
    match ← peek with
    | .fixed "\x7d" => return members
    | _ => return members ++ (← readMembers fuel)

/-- Reads a type or `void`, with its line. -/
def readType : Nat → Reader (Option Ty × Nat)
  | 0 => exhausted
  | fuel + 1 => do
    match ← bump with
    | (.fixed "void", line) => return (none, line)
    | (.type ty, line) =>
      noteType ty line
      return (some (← readLengths fuel ty), line)
    | (.fixed "struct", line) =>
      let (name, _) ← expectIdentifier
      expect "\x7b"
      let members ← readMembers fuel
      expect "\x7d"
      let ty ← declareStruct name members
      return (some (← readLengths fuel ty), line)
    | (.identifier name, line) =>
      match (← get).typeNames.lookup name with
      | some index => return (some (← readLengths fuel (.struct index)), line)
      | none => refuse line (.unknownType name)
    | (t, line) => unexpected t line ["Void", "Struct", "a type"]

/-- Reads a type that has values. -/
def readSolidType : Nat → Reader (Ty × Nat)
  | 0 => exhausted
  | fuel + 1 => do
    match ← readType fuel with
    | (some ty, line) => return (ty, line)
    | (none, line) => refuseMisuse line "Type can't be void"

end

end ShaderBundle.Glsl
