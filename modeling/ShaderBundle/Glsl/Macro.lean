import ShaderBundle.Glsl.Lexeme

/-!
# Macros

A macro stands for a run of lexemes, with or without arguments. What it stands for is expanded in
turn, and a macro is not expanded within itself. Everything that comes out of a macro stands on the
line of its use.

## Main definitions

* `Macro` is a definition, `Macro.ofLine?` reads one.
* `expand` replaces all uses of macros.
* `holds?` decides the condition of an `#if`.
-/

namespace ShaderBundle.Glsl

/-- A run of lexemes with their lines. -/
abbrev Run := List (Placed Lexeme)

/-- The definition of a macro. -/
structure Macro where
  /-- What is replaced. -/
  name : Text
  /-- The names of the arguments, if it takes any. -/
  parameters? : Option (List Text)
  /-- What it stands for. -/
  body : List Lexeme
  deriving DecidableEq, Repr

/-- The parameters of a macro up to the closing parenthesis, and what follows. -/
def macroParameters? : List Lexeme → Option (List Text × List Lexeme)
  | .token (.fixed ")") :: rest => some ([], rest)
  | .word name :: .token (.fixed ",") :: rest => do
    let (names, body) ← macroParameters? rest
    return (name :: names, body)
  | .word name :: .token (.fixed ")") :: rest => some ([name], rest)
  | _ => none

/-- The macro that a line defines, from its name on. -/
def Macro.ofLine? : List Lexeme → Option Macro
  | .word name :: .token (.fixed "(") :: rest =>
    match macroParameters? rest with
    | some (names, body) => some ⟨name, some names, body⟩
    | none => some ⟨name, none, .token (.fixed "(") :: rest⟩
  | .word name :: body => some ⟨name, none, body⟩
  | _ => none

/-- The arguments of a use from behind the opening parenthesis, and what follows the closing one.
`depth` counts the parentheses that are open within an argument. -/
def macroArguments? : Nat → Run → Run → Option (List Run × Run)
  | _, _, [] => none
  | depth, argument, t :: rest =>
    match t.value, depth with
    | .token (.fixed ")"), 0 => some ([argument], rest)
    | .token (.fixed ","), 0 => do
      let (others, behind) ← macroArguments? 0 [] rest
      return (argument :: others, behind)
    | .token (.fixed ")"), depth + 1 => macroArguments? depth (argument ++ [t]) rest
    | .token (.fixed "("), depth => macroArguments? (depth + 1) (argument ++ [t]) rest
    | _, depth => macroArguments? depth (argument ++ [t]) rest

/-- What a macro stands for on a line, with its arguments in place. -/
def Macro.instantiate (definition : Macro) (line : Nat) (arguments : List (Text × Run)) : Run :=
  definition.body.flatMap fun lexeme =>
    match lexeme with
    | .word name => (arguments.lookup name).getD [⟨lexeme, line⟩]
    | _ => [⟨lexeme, line⟩]

/-- The macro that is used at a lexeme. -/
def usedMacro? (macros : List Macro) : Lexeme → Option Macro
  | .word name => macros.find? fun definition => definition.name == name
  | _ => none

/-- The macros without one. -/
def withoutMacro (macros : List Macro) (name : Text) : List Macro :=
  macros.filter fun definition => definition.name ≠ name

/-- Expands a run, given how to expand what macros stand for. Every step takes at least one lexeme,
so the length of the run is fuel enough. -/
def expandWith (nested : List Macro → Run → Run) (macros : List Macro) : Nat → Run → Run
  | 0, run => run
  | _ + 1, [] => []
  | fuel + 1, t :: rest =>
    match usedMacro? macros t.value with
    | none => t :: expandWith nested macros fuel rest
    | some definition =>
      let inner := withoutMacro macros definition.name
      match definition.parameters? with
      | none =>
        nested inner (definition.instantiate t.line []) ++ expandWith nested macros fuel rest
      | some names =>
        match rest with
        | ⟨.token (.fixed "("), _⟩ :: behind =>
          match macroArguments? 0 [] behind with
          | none => t :: expandWith nested macros fuel rest
          | some (arguments, final) =>
            let expanded := arguments.map (nested macros)
            nested inner (definition.instantiate t.line (names.zip expanded)) ++
              expandWith nested macros fuel final
        | _ => t :: expandWith nested macros fuel rest

/-- Expands a run through so many levels of macros within macros. -/
def expandLevels : Nat → List Macro → Run → Run
  | 0, _, run => run
  | levels + 1, macros, run => expandWith (expandLevels levels) macros run.length run

/-- Expands a run. Uses nest within macros, none within itself, and within the arguments of a use,
so there are no more levels than macros and lexemes together. -/
def expand (macros : List Macro) (run : Run) : Run :=
  expandLevels (macros.length + run.length) macros run

/-! ### Conditions -/

/-- The run with the questions whether a macro is defined answered. -/
def answerDefined (macros : List Macro) : Run → Run
  | ⟨.word ['d', 'e', 'f', 'i', 'n', 'e', 'd'], line⟩ :: ⟨.token (.fixed "("), _⟩ ::
      ⟨.word name, _⟩ :: ⟨.token (.fixed ")"), _⟩ :: rest
  | ⟨.word ['d', 'e', 'f', 'i', 'n', 'e', 'd'], line⟩ :: ⟨.word name, _⟩ :: rest =>
    let known := macros.any fun definition => definition.name == name
    ⟨.token (.int (if known then 1 else 0) true), line⟩ :: answerDefined macros rest
  | t :: rest => t :: answerDefined macros rest
  | [] => []

/-- How tightly an operator of a condition binds, and what it computes. -/
def conditionOperator? : String → Option (Nat × (Int → Int → Option Int))
  | "||" => some (1, fun a b => some (if a ≠ 0 ∨ b ≠ 0 then 1 else 0))
  | "&&" => some (2, fun a b => some (if a ≠ 0 ∧ b ≠ 0 then 1 else 0))
  | "==" => some (3, fun a b => some (if a = b then 1 else 0))
  | "!=" => some (3, fun a b => some (if a = b then 0 else 1))
  | "<" => some (4, fun a b => some (if a < b then 1 else 0))
  | ">" => some (4, fun a b => some (if a > b then 1 else 0))
  | "<=" => some (4, fun a b => some (if a ≤ b then 1 else 0))
  | ">=" => some (4, fun a b => some (if a ≥ b then 1 else 0))
  | "+" => some (5, fun a b => some (a + b))
  | "-" => some (5, fun a b => some (a - b))
  | "*" => some (6, fun a b => some (a * b))
  | "/" => some (6, fun a b => if b = 0 then none else some (Int.tdiv a b))
  | "%" => some (6, fun a b => if b = 0 then none else some (Int.tmod a b))
  | _ => none

mutual

/-- The value of an operand, and what follows it. -/
def conditionOperand? : Nat → List Lexeme → Option (Int × List Lexeme)
  | fuel + 1, .token (.fixed "!") :: rest => do
    let (value, behind) ← conditionOperand? fuel rest
    return (if value = 0 then 1 else 0, behind)
  | fuel + 1, .token (.fixed "-") :: rest => do
    let (value, behind) ← conditionOperand? fuel rest
    return (-value, behind)
  | fuel + 1, .token (.fixed "(") :: rest => do
    let (value, behind) ← conditionFrom? fuel 0 rest
    match behind with
    | .token (.fixed ")") :: final => return (value, final)
    | _ => none
  | _ + 1, .token (.int value _) :: rest => some (value, rest)
  | _ + 1, .word _ :: rest => some (0, rest)
  | _, _ => none

/-- Applies the operators that bind at least so tightly to a left operand. -/
def conditionRest? : Nat → Nat → Int → List Lexeme → Option (Int × List Lexeme)
  | fuel + 1, least, left, .token (.fixed spelling) :: rest =>
    match conditionOperator? spelling with
    | some (level, compute) =>
      if level < least then some (left, .token (.fixed spelling) :: rest)
      else do
        let (right, behind) ← conditionFrom? fuel (level + 1) rest
        conditionRest? fuel least (← compute left right) behind
    | none => some (left, .token (.fixed spelling) :: rest)
  | 0, _, _, _ => none
  | _ + 1, _, left, rest => some (left, rest)

/-- The value of what binds at least so tightly, and what follows it. -/
def conditionFrom? : Nat → Nat → List Lexeme → Option (Int × List Lexeme)
  | 0, _, _ => none
  | fuel + 1, least, lexemes => do
    let (left, rest) ← conditionOperand? fuel lexemes
    conditionRest? fuel least left rest

end

/-- Whether the condition of an `#if` holds. -/
def holds? (macros : List Macro) (condition : Run) : Option Bool :=
  let lexemes := (expand macros (answerDefined macros condition)).map Placed.value
  match conditionFrom? (3 * lexemes.length + 3) 0 lexemes with
  | some (value, []) => some (value ≠ 0)
  | _ => none

end ShaderBundle.Glsl
