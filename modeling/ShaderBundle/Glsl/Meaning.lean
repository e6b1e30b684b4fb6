import ShaderBundle.Glsl.Session
import ShaderBundle.Glsl.Signature

/-!
# What terms mean

The type of an expression, whether it is a place in memory, and what of it is known beforehand.
Finding it out resolves calls, converts components where the language does so implicitly, and checks
that operands fit.

## What is known beforehand

Lengths of arrays, layouts and labels of a switch have to be known when a shader is compiled. A
whole number is followed through the operators as far as that is needed for these; of other
constants only their type is kept, with the fact that they are constants.

## Main definitions

* `Value` is what is known of an expression.
* `Use` is what an expression is wanted for.
* `Term.meaning` finds the value of a term.

## Implementation notes

Operands that do not fit make the function unsound and no more: the reading goes on with the type of
the left operand, as later faults are to be found too. Names of functions that do not exist end the
reading.

The use that is made of an expression is handed down, since to write to a part of something is to
write to all of it, and since a variable of the language is noted as used only where it is.
-/

namespace ShaderBundle.Glsl

/-- What is known of an expression. -/
structure Value where
  /-- The type. -/
  ty : Ty
  /-- Whether it is a place in memory. -/
  place : Bool := false
  /-- Whether what it is a place or a part of can be written. -/
  writable : Bool := false
  /-- Whether it is a constant expression. -/
  fixed : Bool := false
  /-- The value, if it is a constant whole number. -/
  whole? : Option Int := none
  /-- Whether it is a texture that was paired with a sampler. -/
  paired : Bool := false
  /-- Whether it is a choice of several components of a vector. -/
  swizzled : Bool := false
  deriving DecidableEq, Repr

/-- What an expression is wanted for. -/
inductive Use where
  | read
  | write
  | base
  deriving DecidableEq, Repr

/-- Where only constant expressions are allowed, anything else ends the reading. -/
def ensureConstant (line : Nat) (fixed : Bool) : Reader Unit := do
  if (← get).constantOnly && !fixed then refuseMisuse line "Subexpression(s) are not constant"

/-- The value converted to the component type of a target. -/
def Value.convertedTo (target : Ty) (value : Value) : Value :=
  match target.component? with
  | some s => { value with ty := value.ty.converted s }
  | none => value

/-! ### Parts -/

/-- The type of the parts that an index reaches. -/
def elementType? (ty : Ty) (whole? : Option Int) : Reader (Option Ty) := do
  match ty with
  | .vector _ s => return some (.scalar s)
  | .matrix _ rows s => return some (.vector rows s)
  | .array element _ => return some element
  | .struct _ =>
    match ← membersOf ty, whole? with
    | some members, some (.ofNat index) => return members[index]?.map Prod.snd
    | _, _ => return none
  | _ => return none

/-- How many parts an index reaches, if that is known. -/
def Ty.extent? : Ty → Option Nat
  | .vector size _ => some size
  | .matrix columns _ _ => some columns
  | .array _ length => length
  | _ => none

/-- Whether an index stays within a type. -/
def indexFits (ty : Ty) (whole? : Option Int) : Bool :=
  match ty.extent?, whole? with
  | some extent, some index => 0 ≤ index && index < extent
  | _, _ => true

/-- Whether parts of a value may be reached by an index that is not constant. -/
def allowsDynamic (base : Value) : Bool :=
  match base.ty with
  | .vector _ _ => true
  | _ => base.place || base.fixed

/-- The part of a value at an index. -/
def accessed (line : Nat) (use : Use) (base index : Value) : Reader Value := do
  match ← elementType? base.ty index.whole? with
  | none => refuseMisuse line "Can't resolve type: InvalidAccess"
  | some ty =>
    ensure (index.ty = .scalar .int || index.ty = .scalar .uint)
    ensure (indexFits base.ty index.whole?)
    ensure (index.fixed || allowsDynamic base)
    let fixed := base.fixed && index.fixed
    ensureConstant line fixed
    return { ty, place := base.place && use ≠ .read, writable := base.writable, fixed }

/-- The sets of letters that choose components. -/
def componentLetters : List Text :=
  ["xyzw".toList, "rgba".toList, "stpq".toList]

/-- The components that a field of a vector chooses. -/
def chosenComponents? (size : Nat) (field : Text) : Option (List Nat) :=
  componentLetters.findSome? fun letters =>
    field.mapM fun c => ((letters.take size).idxOf? c)

/-- Whether a list says something twice in a row or later. -/
def hasRepeat : List Nat → Bool
  | [] => false
  | n :: rest => rest.contains n || hasRepeat rest

/-- A name between double quotes. -/
def quoted (name : Text) : Text :=
  '"' :: name ++ ['"']

/-- A field of a vector. -/
def swizzledValue (line : Nat) (use : Use) (base : Value) (size : Nat) (s : Scalar) (field : Text) :
    Reader Value := do
  match chosenComponents? size field with
  | none => refuse line (.misuse ("Invalid swizzle for vector ".toList ++ quoted field))
  | some components =>
    if use = .write && hasRepeat components then
      note line (.misuse
        ("swizzle cannot have duplicate components in left-hand-side expression for ".toList ++
          quoted field))
    ensureConstant line base.fixed
    match components with
    | [_] =>
      return { base with ty := .scalar s, place := base.place && use ≠ .read, whole? := none }
    | _ =>
      if components.length > 4 then
        note line (.misuse ("Bad swizzle size for ".toList ++ quoted field))
      return { base with
        ty := .vector (min components.length 4) s, place := false, swizzled := true }

/-- A field of a value. -/
def selected (line : Nat) (use : Use) (base : Value) (field : Text) : Reader Value := do
  match base.ty with
  | .struct _ =>
    match ((← membersOf base.ty).getD []).lookup field with
    | none => refuse line (.unknownField field)
    | some ty =>
      ensureConstant line base.fixed
      return { base with ty, place := base.place && use ≠ .read, whole? := none }
  | .vector size s => swizzledValue line use base size s field
  | _ => refuse line (.misuse ("Can't lookup field on this type ".toList ++ quoted field))

/-! ### Operators -/

/-- Whether an operator takes a scalar beside a vector by repeating it. -/
def Operator.repeatsScalar : Operator → Bool
  | add | subtract | divide | bitAnd | bitXor | bitOr | shiftLeft | shiftRight => true
  | _ => false

/-- The types of two operands after a scalar was repeated to fit the other operand. -/
def repeated (operator : Operator) (left right : Ty) : Ty × Ty :=
  match left, right with
  | .vector size _, .scalar s => (left, if operator.repeatsScalar then .vector size s else right)
  | .scalar s, .vector size _ => (if operator.repeatsScalar then .vector size s else left, right)
  | .matrix columns rows _, .scalar s =>
    (left, if operator = .add || operator = .subtract || operator = .divide then
      .matrix columns rows s else right)
  | .scalar s, .matrix columns rows _ =>
    (if operator = .add || operator = .subtract || operator = .divide then
      .matrix columns rows s else left, right)
  | _, _ => (left, right)

/-- Whether a type is a scalar or a vector. -/
def Ty.isFlat : Ty → Bool
  | .scalar _ | .vector _ _ => true
  | _ => false

/-- Whether a component type has a property. -/
def Ty.componentIs (p : Scalar → Bool) (ty : Ty) : Bool :=
  match ty.component? with
  | some s => p s
  | none => false

/-- Whether two types can be multiplied. -/
def multipliable (left right : Ty) : Bool :=
  left.componentIs Scalar.isNumeric && left.component? = right.component? &&
    match left, right with
    | .scalar _, .scalar _ | .vector _ _, .scalar _ | .scalar _, .vector _ _ => true
    | .vector m _, .vector n _ => m = n
    | .scalar s, .matrix _ _ _ | .matrix _ _ _, .scalar s => s.isFloat
    | .matrix columns _ _, .vector size _ => columns = size
    | .vector size _, .matrix _ rows _ => size = rows
    | .matrix columns _ _, .matrix _ rows _ => columns = rows
    | _, _ => false

/-- Whether a value can be shifted by another. -/
def shiftable (left right : Ty) : Bool :=
  left.componentIs Scalar.isWhole &&
    match left, right with
    | .scalar _, .scalar .uint => true
    | .vector m _, .vector n .uint => m = n
    | _, _ => false

/-- Whether operands of these types fit an operator. -/
def operandsFit (operator : Operator) (left right : Ty) : Bool :=
  match operator with
  | .add | .subtract => left.componentIs Scalar.isNumeric && left = right
  | .divide =>
    left.componentIs Scalar.isNumeric && left = right
  | .modulo => left.isFlat && left.componentIs Scalar.isNumeric && left = right
  | .multiply => multipliable left right
  | .equal | .notEqual | .logicalXor => left.component?.isSome && left = right
  | .less | .lessEqual | .greater | .greaterEqual =>
    left.isFlat && left.componentIs Scalar.isNumeric && left = right
  | .logicalAnd | .logicalOr => left.isFlat && left.componentIs (· = .bool) && left = right
  | .bitAnd | .bitOr =>
    left.isFlat && left.componentIs (fun s => s.isWhole || s = .bool) && left = right
  | .bitXor => left.isFlat && left.componentIs Scalar.isWhole && left = right
  | .shiftLeft | .shiftRight => shiftable left right

/-- The type of a product. -/
def productType (left right : Ty) : Ty :=
  match left, right with
  | .matrix _ rows s, .matrix columns _ _ => .matrix columns rows s
  | .matrix _ rows s, .vector _ _ => .vector rows s
  | .vector _ s, .matrix columns _ _ => .vector columns s
  | .scalar _, _ => right
  | _, _ => left

/-- The type of an operation. -/
def operationType (operator : Operator) (left right : Ty) : Ty :=
  match operator with
  | .multiply => productType left right
  | .equal | .notEqual | .logicalXor => .scalar .bool
  | .less | .lessEqual | .greater | .greaterEqual | .logicalAnd | .logicalOr =>
    match left with
    | .vector size _ => .vector size .bool
    | _ => .scalar .bool
  | _ => left

/-- The value of an operation on constant whole numbers. -/
def wholeResult? (operator : Operator) (left right : Int) : Option Int :=
  match operator with
  | .add => some (left + right)
  | .subtract => some (left - right)
  | .multiply => some (left * right)
  | .divide => if right = 0 then none else some (Int.tdiv left right)
  | .modulo => if right = 0 then none else some (Int.tmod left right)
  | _ => none

/-- Whether the dimensions of two matrices fit an operator. -/
def dimensionsFit (operator : Operator) (left right : Ty) : Bool :=
  match left, right with
  | .matrix c r s, .matrix c' r' s' =>
    (if operator = .multiply then c = r' else c = c' ∧ r = r') && s = s'
  | _, _ => true

/-- Refuses constants that are divided by zero. -/
def ensureDivisor (line : Nat) (operator : Operator) (left right : Value) : Reader Unit := do
  if left.whole?.isSome && right.whole? = some 0 then
    if operator = .divide then refuseMisuse line "Division by zero"
    if operator = .modulo then refuseMisuse line "Remainder by zero"

/-- The value of an operation. -/
def operated (line : Nat) (operator : Operator) (left right : Value) : Reader Value := do
  let (left, right) :=
    if operator = .shiftLeft || operator = .shiftRight then
      (left, right.convertedTo (.scalar .uint))
    else (left.convertedTo right.ty, right.convertedTo left.ty)
  unless dimensionsFit operator left.ty right.ty do
    noteMisuse line
      ("Cannot apply operation to " ++ left.ty.show ++ " and " ++ right.ty.show)
  let (leftTy, rightTy) := repeated operator left.ty right.ty
  ensure (operandsFit operator leftTy rightTy)
  ensureDivisor line operator left right
  let fixed := left.fixed && right.fixed
  ensureConstant line fixed
  let whole? := match left.whole?, right.whole? with
    | some a, some b => wholeResult? operator a b
    | _, _ => none
  return { ty := operationType operator leftTy rightTy, fixed, whole? }

/-- The value of an operation with one operand. -/
def negated (line : Nat) (operator : UnaryOperator) (operand : Value) : Reader Value := do
  let fits := match operator with
    | .negate => operand.ty.componentIs fun s => s.isFloat || s = .int
    | .logicalNot => operand.ty.isFlat && operand.ty.componentIs (· = .bool)
    | .bitNot => operand.ty.isFlat && operand.ty.componentIs Scalar.isWhole
  ensure fits
  ensureConstant line operand.fixed
  let whole? := if operator = .negate then operand.whole?.map fun n => -n else none
  return { ty := operand.ty, fixed := operand.fixed, whole? }

/-! ### Constructors -/

/-- How many components a value brings to a vector or matrix. -/
def Ty.componentCount : Ty → Nat
  | .vector size _ => size
  | .matrix columns rows _ => columns * rows
  | _ => 1

/-- Whether every value has components. -/
def allComponents (values : List Value) : Bool :=
  values.all fun value => value.ty.component?.isSome

/-- How many components the values bring together. -/
def totalComponents (values : List Value) : Nat :=
  values.foldl (fun total value => total + value.ty.componentCount) 0

/-- Whether the parts of an array or a structure get values of their types. -/
def partsFit (parts : List Ty) (values : List Value) : Bool :=
  parts.length = values.length &&
    (parts.zip values).all fun (part, value) => (value.convertedTo part).ty = part

/-- A value made of one other. -/
def madeOfOne (line : Nat) (ty : Ty) (value : Value) : Reader Unit := do
  match ty with
  | .scalar _ => ensure value.ty.component?.isSome
  | .vector size _ =>
    match value.ty with
    | .scalar _ => return ()
    | .vector n _ => ensure (size ≤ n)
    | .matrix columns rows _ => ensure (size ≤ columns * rows)
    | _ => unsound
  | .matrix _ rows _ =>
    match value.ty with
    | .scalar _ | .matrix _ _ _ => return ()
    | .vector n _ => ensure (n = rows)
    | _ => unsound
  | .array element length => ensure (partsFit [element] [value] && length = some 1)
  | .struct _ => ensure (partsFit (((← membersOf ty).getD []).map Prod.snd) [value])
  | _ => noteMisuse line "Bad type constructor"

/-- A value made of none or several others. -/
def madeOfMany (line : Nat) (ty : Ty) (values : List Value) : Reader Unit := do
  match ty with
  | .vector size _ => ensure (allComponents values && size ≤ totalComponents values)
  | .matrix columns rows _ =>
    ensure (allComponents values && totalComponents values = columns * rows)
  | .array element length =>
    ensure (length = some values.length && partsFit (values.map fun _ => element) values)
  | .struct _ => ensure (partsFit (((← membersOf ty).getD []).map Prod.snd) values)
  | _ => refuseMisuse line "Constructor: Too many arguments"

/-- The constant whole number that a constructor makes. -/
def constructedWhole? (ty : Ty) (values : List Value) : Option Int :=
  match ty, values with
  | .scalar .int, [value] | .scalar .uint, [value] => value.whole?
  | _, _ => none

/-- A constructed value. -/
def constructed (line : Nat) (ty : Ty) (values : List Value) : Reader Value := do
  match values with
  | [value] => madeOfOne line ty value
  | _ => madeOfMany line ty values
  let fixed := values.all Value.fixed
  ensureConstant line fixed
  return { ty, fixed, whole? := constructedWhole? ty values }

/-! ### Stores -/

/-- Checks that a value can be stored. -/
def stored (target value : Value) : Reader Unit := do
  let converted := value.convertedTo target.ty
  if target.swizzled then
    ensureLive target.writable
    ensure (target.ty.component? = converted.ty.component? &&
      target.ty.componentCount ≤ converted.ty.componentCount)
  else ensureLive (target.place && target.writable && converted.ty = target.ty)
  setFalls true

/-! ### Calls -/

/-- What is called. -/
inductive Callee where
  | builtin (signature : Signature)
  | declared (index : Nat) (function : Function)
  deriving DecidableEq, Repr

/-- The types of the parameters. -/
def Callee.parameters : Callee → List Ty
  | builtin signature => signature.parameters
  | declared _ function => function.parameters.map Parameter.ty

/-- Whether what is written through the parameters has the types of the arguments. -/
def Callee.admits (arguments : List Ty) : Callee → Bool
  | builtin _ => true
  | declared _ function =>
    (function.parameters.zip arguments).all fun (parameter, argument) =>
      match parameter.passing with
      | .in | .const => true
      | .out | .inout => parameter.ty = argument

/-- Everything that a name of a function may mean in a call with arguments of some types. -/
def calleesOf (functions : List Function) (name : Text) (arguments : List Ty) : List Callee :=
  (signaturesInReach (String.ofList name) arguments).map Callee.builtin ++
    functions.zipIdx.filterMap fun (function, index) =>
      if function.name = name then some (.declared index function) else none

/-- Functions of the language that sample with a level of detail of their own. -/
def implicitLevelFunctions : List String :=
  ["texture", "textureOffset", "textureProj"]

/-- What a call of a function of the language uses. -/
def builtinEffects (name : String) (effects : Effects) : Effects :=
  if fragmentFunctions.contains name || implicitLevelFunctions.contains name then
    { effects with fragmentOnly := true }
  else if name = "barrier" then { effects with computeOnly := true }
  else effects

/-- Whether arguments have the types of the parameters after the conversions that need no words. -/
def allConvert (parameters : List Ty) (arguments : List Value) : Bool :=
  (parameters.zip arguments).all fun (parameter, argument) =>
    (argument.convertedTo parameter).ty = parameter

/-- The value of a call of a function of the language. -/
def builtinCalled (line : Nat) (name : Text) (signature : Signature) (arguments : List Value) :
    Reader (Option Value) := do
  let spelling := String.ofList name
  modifyEffects (builtinEffects spelling)
  ensure (allConvert signature.parameters arguments)
  if samplingFunctions.contains spelling && !(arguments.head?.map Value.paired).getD false then
    refuseMisuse line "Bad call"
  match signature.result? with
  | none =>
    setFalls true
    return none
  | some ty =>
    let fixed := !arguments.isEmpty && arguments.all Value.fixed
    ensureConstant line fixed
    return some { ty, fixed, paired := !(pairingSignatures spelling).isEmpty }

/-- The value of a call of a declared function. -/
def declaredCalled (line : Nat) (index : Nat) (function : Function) (arguments : List Value) :
    Reader (Option Value) := do
  modifyEffects fun effects => { effects with calls := index :: effects.calls }
  ensureConstant line false
  ensureLive (allConvert (function.parameters.map Parameter.ty) arguments)
  setFalls true
  return function.result?.map fun ty => { ty }

/-- What a call means: the overload that the types of the arguments choose. -/
def resolved (line : Nat) (name : Text) (arguments : List Value) : Reader Callee := do
  let types := arguments.map Value.ty
  let callees := (calleesOf (← get).functions name types).filter (Callee.admits types)
  let (best?, ambiguous) := chooseOverload (callees.map Callee.parameters) types
  if ambiguous then
    note line (.misuse ("Ambiguous best function for '".toList ++ name ++ ['\'']))
  match best?.bind fun best => callees[best]? with
  | some callee => return callee
  | none => refuse line (.misuse ("Unknown function '".toList ++ name ++ ['\'']))

/-- The passing of the arguments of a call, in order. -/
def Callee.passings : Callee → List Passing
  | builtin signature => signature.parameters.map fun _ => .in
  | declared _ function => function.parameters.map Parameter.passing

/-- The value of a call. -/
def called (line : Nat) (name : Text) (callee : Callee) (arguments : List Value) :
    Reader (Option Value) :=
  match callee with
  | .builtin signature => builtinCalled line name signature arguments
  | .declared index function => declaredCalled line index function arguments

/-! ### Names and choices -/

/-- The value of a name. -/
def namedValue (line : Nat) (use : Use) (meaning : Variable) : Reader Value := do
  let known : Option (Option Int) := match meaning.origin with
    | .constant value? => some value?
    | _ => none
  match meaning.origin with
  | .global index => useGlobal index
  | _ => pure ()
  if use = .write && !meaning.mutable then
    noteMisuse line "Variable cannot be used in LHS position"
  ensureConstant line known.isSome
  return {
    ty := meaning.ty
    place := meaning.place && use ≠ .read
    writable := meaning.writable
    fixed := known.isSome
    whole? := known.getD none }

/-- The value of a choice between two. -/
def chosen (line : Nat) (condition accept reject : Value) : Reader Value := do
  ensureLive (condition.ty = .scalar .bool)
  let accept := accept.convertedTo reject.ty
  let reject := reject.convertedTo accept.ty
  ensureLive (accept.ty = reject.ty)
  ensureConstant line false
  setFalls true
  return { ty := accept.ty }

/-- The value of a variable after it was counted up or down. -/
def updated (line : Nat) (target : Value) : Reader Value := do
  unless target.ty.componentIs Scalar.isNumeric do
    noteMisuse line "Increment/decrement only works on scalar numbers"
  stored target { ty := target.ty }
  return { ty := target.ty }

/-- The length of an array. -/
def lengthOf (line : Nat) (base : Value) : Reader Value := do
  match base.ty with
  | .array _ length =>
    let whole? := length.map fun n => (n : Int)
    let fixed := length.isSome
    ensureConstant line fixed
    return { ty := .scalar .int, fixed, whole? }
  | _ =>
    unsound
    return { ty := .scalar .int }

/-! ### Terms -/

/-- A value that has to be there. -/
def required (line : Nat) (value? : Option Value) : Reader Value :=
  match value? with
  | some value => return value
  | none => refuseMisuse line "Expression returns void"

/-- The refusal of a term that cannot be assigned to. -/
def refuseTarget {α : Type} (line : Nat) : Reader α :=
  refuseMisuse line "Expression cannot be in the left hand side"

/-- What the base of an index is wanted for. -/
def Use.forBase : Use → Use
  | write => write
  | _ => base

mutual

/-- The value of a term, if it has one. -/
def Term.meaning (use : Use) : Term → Reader (Option Value)
  | .literal line found => do
    if use = .write then refuseTarget line
    else return some { ty := .scalar found.scalar, fixed := true, whole? := found.value? }
  | .named line meaning => return some (← namedValue line use meaning)
  | .access line base index => do
    let index ← required index.line (← index.meaning .read)
    let base ← required base.line (← base.meaning use.forBase)
    return some (← accessed line use base index)
  | .select line base field => do
    let base ← required base.line (← base.meaning use)
    return some (← selected line use base field)
  | .unary line operator operand => do
    if use = .write then refuseTarget line
    else return some (← negated line operator (← required operand.line (← operand.meaning .read)))
  | .binary line operator left right => do
    if use = .write then refuseTarget line
    else
      let left ← required left.line (← left.meaning .read)
      let right ← required right.line (← right.meaning .read)
      return some (← operated line operator left right)
  | .construct line ty arguments => do
    if use = .write then refuseTarget line
    else return some (← constructed line ty (← meanings arguments))
  | .call line name arguments => do
    if use = .write then refuseTarget line
    else
      let values ← meanings arguments
      let callee ← resolved line name values
      assignable callee.passings arguments
      called line name callee values
  | .method line base name arguments => do
    if use = .write then refuseTarget line
    else
      let values ← meanings arguments
      if name = "length".toList then
        unless values.isEmpty do noteMisuse line ".length() doesn't take any arguments"
        return some (← lengthOf line (← required base.line (← base.meaning .base)))
      else refuse line (.misuse ("unknown method '".toList ++ name ++ ['\'']))
  | .conditional line condition accept reject => do
    if use = .write then refuseTarget line
    else
      let condition ← required condition.line (← condition.meaning .read)
      let accept ← required accept.line (← accept.meaning .read)
      let reject ← required reject.line (← reject.meaning .read)
      return some (← chosen line condition accept reject)
  | .assign line target value => do
    if use = .write then refuseTarget line
    else
      let target ← required target.line (← target.meaning .write)
      let value ← required value.line (← value.meaning .read)
      stored target value
      return some { value.convertedTo target.ty with place := false }
  | .update line target => do
    if use = .write then refuseTarget line
    else return some (← updated line (← required target.line (← target.meaning .write)))

/-- The values of arguments. -/
def meanings : List Term → Reader (List Value)
  | [] => return []
  | term :: others => do
    let value ← required term.line (← term.meaning .read)
    return value :: (← meanings others)

/-- Checks that the arguments which a call writes can be written. -/
def assignable : List Passing → List Term → Reader Unit
  | passing :: passings, term :: others => do
    match passing with
    | .out | .inout =>
      let target ← required term.line (← term.meaning .write)
      ensureLive (target.place && target.writable)
    | _ => pure ()
    assignable passings others
  | _, _ => return ()

end

/-- The value of a term that is read. -/
def Term.value (term : Term) : Reader Value := do
  required term.line (← term.meaning .read)

end ShaderBundle.Glsl
