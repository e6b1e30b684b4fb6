import ShaderBundle.Glsl.Declaration

/-!
# Statements

What a body of a function is made of. Names live until the end of their block; behind a jump nothing
in the same block can be reached.

## What is kept

Two things are kept while statements are read: whether the present one can be reached, and whether
the present block would be left at its end. A function with a result must not be left that way. The
first is lost at a jump and comes back at the end of the block that the jump is in; the second is
put together from the branches of a choice. Loops and switches are counted, as `break` and
`continue` ask only whether there is one around them.

A misuse of a statement is noted, or makes the function unsound, and the reading goes on, as
everywhere in this front end: a later fault in the grammar is the one to be reported.

## Main definitions

* `readStatement` reads one statement, `readBlockRest` all of a block behind its opening brace.
* `readBody` reads the body of a function.
-/

namespace ShaderBundle.Glsl

/-- Reads a part that is taken or not, and says whether it would be left at its end. What comes
behind it can be reached as before. -/
def branch (step : Reader Unit) : Reader Bool := do
  let before := (← get).body
  modifyBody fun body => { body with falls := true }
  step
  let after := (← get).body
  modifyBody fun body => { body with live := before.live, falls := before.falls }
  return after.falls

/-- Reads what is within a loop. -/
def withinLoop {α : Type} (step : Reader α) : Reader α := do
  modifyBody fun body =>
    { body with loops := body.loops + 1, breakable := body.breakable + 1 }
  let result ← step
  modifyBody fun body =>
    { body with loops := body.loops - 1, breakable := body.breakable - 1 }
  return result

/-- Reads what is within a switch. -/
def withinSwitch {α : Type} (step : Reader α) : Reader α := do
  modifyBody fun body => { body with breakable := body.breakable + 1 }
  let result ← step
  modifyBody fun body => { body with breakable := body.breakable - 1 }
  return result

/-- A jump: nothing behind it in its block can be reached. -/
def jump (allowed : Bool) : Reader Unit := do
  ensureLive allowed
  setFalls false
  cutOff

/-- Reads the condition of a branch or loop. -/
def readCondition (fuel : Nat) : Reader Unit := do
  let term ← readExpression fuel
  let value ← term.value
  ensureLive (value.ty = .scalar .bool)

/-- Reads the condition of a loop with its closing parenthesis. -/
def readLoopCondition (fuel : Nat) : Reader Unit := do
  let term ← readExpression fuel
  expect ")"
  let value ← term.value
  ensureLive (value.ty = .scalar .bool)

/-- Reads a return from behind its keyword. -/
def readReturn (fuel : Nat) : Reader Unit := do
  let result? := (← get).body.result?
  if ← takes ";" then jump result?.isNone
  else
    let term ← readExpression fuel
    expect ";"
    let value ← term.value
    jump (result? = some value.ty)

/-- Whether a declaration begins here. A type with a parenthesis behind it is a constructor. -/
def seesDeclaration : Reader Bool := do
  if ← seesQualifier then return true
  else if ← seesType then
    let (t, line) ← bump
    let following ← peek
    giveBack t line
    return following ≠ .fixed "("
  else return false

/-- Reads an expression that stands as a statement. -/
def readEffect (fuel : Nat) : Reader Unit := do
  let term ← readExpression fuel
  let _ ← term.meaning .read
  return ()

/-- What the labels of a switch are compared with. -/
structure Selector where
  /-- The type. -/
  ty : Ty
  /-- The labels so far. -/
  labels : List (Option Int) := []
  deriving DecidableEq, Repr

/-- Reads a label from behind `case`. -/
def readLabel (fuel : Nat) (selector : Selector) : Reader Selector := do
  let (value, line) ← readConstant fuel
  match value.ty, value.whole? with
  | .scalar .int, some n | .scalar .uint, some n =>
    ensureLive (value.ty = selector.ty || selector.ty = .scalar .uint)
    ensureLive (!selector.labels.contains (some n))
    return { selector with labels := some n :: selector.labels }
  | _, _ =>
    noteMisuse line "Case values can only be integers"
    return selector

/-- Reads the declaration of a variable that is a condition. -/
def readConditionVariable (fuel : Nat) : Reader Unit := do
  let q ← readQualifiers fuel
  let (ty, line) ← readSolidType fuel
  let (name, _) ← expectIdentifier
  expect "="
  let value ← readInitializer fuel ty
  declareLocal q ty name line none
  ensureLive (value.ty = ty && ty = .scalar .bool)

/-- Reads the head of a `for` up to the closing parenthesis, from behind the opening one. -/
def readForHead (fuel : Nat) : Reader Unit := do
  unless ← takes ";" do
    if (← seesType) || (← seesQualifier) then
      let _ ← readDeclaration none fuel
    else
      readEffect fuel
      expect ";"
  unless ← takes ";" do
    if (← seesType) || (← seesQualifier) then readConditionVariable fuel
    else readCondition fuel
    expect ";"
  match ← peek with
  | .fixed ")" => pure ()
  | _ => readEffect fuel
  expect ")"

mutual

/-- Reads a statement. -/
def readStatement : Nat → Reader Unit
  | 0 => exhausted
  | fuel + 1 => do
    if ← seesDeclaration then
      let _ ← readDeclaration none fuel
    else
      match ← peek with
      | .fixed spelling => readKeyword fuel spelling
      | _ =>
        readEffect fuel
        expect ";"

/-- Reads a statement that begins with a fixed token. -/
def readKeyword : Nat → String → Reader Unit
  | 0, _ => exhausted
  | fuel + 1, spelling => do
    match spelling with
    | "continue" =>
      let _ ← bump
      jump ((← get).body.loops > 0)
      expect ";"
    | "break" =>
      let _ ← bump
      jump ((← get).body.breakable > 0)
      expect ";"
    | "return" =>
      let _ ← bump
      readReturn fuel
    | "discard" =>
      let _ ← bump
      if (← get).body.live then
        modifyEffects fun effects => { effects with fragmentOnly := true }
      jump true
      expect ";"
    | "if" =>
      let _ ← bump
      expect "("
      readCondition fuel
      expect ")"
      let acceptFalls ← branch (readStatement fuel)
      let rejectFalls ← if ← takes "else" then branch (readStatement fuel) else pure true
      setFalls (acceptFalls || rejectFalls)
    | "switch" =>
      let _ ← bump
      expect "("
      let term ← readExpression fuel
      let value ← term.value
      expect ")"
      ensureLive (value.ty = .scalar .int || value.ty = .scalar .uint)
      expect "\x7b"
      withinSwitch (readCases fuel { ty := value.ty })
    | "while" =>
      let _ ← bump
      expect "("
      readLoopCondition fuel
      let _ ← branch (withinLoop (readStatement fuel))
      setFalls true
    | "do" =>
      let _ ← bump
      let _ ← branch do
        withinLoop (readStatement fuel)
        expect "while"
        expect "("
        readLoopCondition fuel
      setFalls true
    | "for" =>
      let _ ← bump
      withScope do
        expect "("
        readForHead fuel
        let _ ← branch (withinLoop (readStatement fuel))
      setFalls true
    | "\x7b" =>
      let _ ← bump
      readBlock fuel
    | ";" =>
      let _ ← bump
    | "precision" =>
      let _ ← readDeclaration none fuel
    | _ =>
      readEffect fuel
      expect ";"

/-- Reads a block from behind its opening brace. A jump within it cuts off what follows it too. -/
def readBlock : Nat → Reader Unit
  | 0 => exhausted
  | fuel + 1 => do
    let before := (← get).body
    modifyBody fun body => { body with falls := true }
    withScope (readBlockRest fuel)
    let after := (← get).body
    modifyBody fun body => { body with falls := before.falls, live := before.live }
    setFalls after.falls
    unless after.live do cutOff

/-- Reads the statements of a block up to the closing brace. -/
def readBlockRest : Nat → Reader Unit
  | 0 => exhausted
  | fuel + 1 => do
    unless ← takes "\x7d" do
      readStatement fuel
      readBlockRest fuel

/-- Reads the cases of a switch up to the closing brace. -/
def readCases : Nat → Selector → Reader Unit
  | 0, _ => exhausted
  | fuel + 1, selector => do
    match ← bump with
    | (.fixed "case", _) =>
      let next ← readLabel fuel selector
      expect ":"
      let _ ← branch (readCaseBody fuel)
      setFalls true
      readCases fuel next
    | (.fixed "default", _) =>
      expect ":"
      let _ ← branch (readCaseBody fuel)
      setFalls true
      readCases fuel selector
    | (.fixed "\x7d", _) => return ()
    | (t, line) => unexpected t line ["Case", "Default", "RightBrace"]

/-- Reads the statements of a case. -/
def readCaseBody : Nat → Reader Unit
  | 0 => exhausted
  | fuel + 1 => do
    match ← peek with
    | .fixed "case" | .fixed "default" | .fixed "\x7d" => return ()
    | _ =>
      readStatement fuel
      readCaseBody fuel

end

/-- Reads the body of a function from behind its opening brace. -/
def readBody (fuel : Nat) : Reader Unit := do
  withScope (readBlockRest fuel)

end ShaderBundle.Glsl
