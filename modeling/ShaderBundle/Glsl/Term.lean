import ShaderBundle.Glsl.Type

/-!
# Terms

An expression as it is read: names of variables are resolved, calls are not. Every term carries the
line that diagnostics about it name.

## Main definitions

* `Operator` is a binary operator, with its spelling and how tightly it binds.
* `Variable` is what a name stands for.
* `Term` is an expression.
-/

namespace ShaderBundle.Glsl

/-- A binary operator. -/
inductive Operator where
  | logicalOr
  | logicalXor
  | logicalAnd
  | bitOr
  | bitXor
  | bitAnd
  | equal
  | notEqual
  | less
  | lessEqual
  | greater
  | greaterEqual
  | shiftLeft
  | shiftRight
  | add
  | subtract
  | multiply
  | divide
  | modulo
  deriving DecidableEq, Repr

namespace Operator

/-- The operator of a spelling with how tightly it binds. -/
def ofSpelling? : String → Option (Operator × Nat)
  | "||" => some (logicalOr, 1)
  | "^^" => some (logicalXor, 2)
  | "&&" => some (logicalAnd, 3)
  | "|" => some (bitOr, 4)
  | "^" => some (bitXor, 5)
  | "&" => some (bitAnd, 6)
  | "==" => some (equal, 7)
  | "!=" => some (notEqual, 7)
  | "<" => some (less, 8)
  | "<=" => some (lessEqual, 8)
  | ">" => some (greater, 8)
  | ">=" => some (greaterEqual, 8)
  | "<<" => some (shiftLeft, 9)
  | ">>" => some (shiftRight, 9)
  | "+" => some (add, 10)
  | "-" => some (subtract, 10)
  | "*" => some (multiply, 11)
  | "/" => some (divide, 11)
  | "%" => some (modulo, 11)
  | _ => none

/-- The operator that an assignment applies before it assigns. -/
def ofAssignment? : String → Option Operator
  | "|=" => some bitOr
  | "^=" => some bitXor
  | "&=" => some bitAnd
  | "<<=" => some shiftLeft
  | ">>=" => some shiftRight
  | "+=" => some add
  | "-=" => some subtract
  | "*=" => some multiply
  | "/=" => some divide
  | "%=" => some modulo
  | _ => none

end Operator

/-- A unary operator. -/
inductive UnaryOperator where
  | negate
  | logicalNot
  | bitNot
  deriving DecidableEq, Repr

/-- Where the value of a variable is. -/
inductive Origin where
  | local
  | global (index : Nat)
  | constant (value? : Option Int)
  deriving DecidableEq, Repr

/-- What a name stands for. -/
structure Variable where
  /-- The type. -/
  ty : Ty
  /-- Where the value is. -/
  origin : Origin
  /-- Whether the variable is a place in memory, so that parts of it can be reached by address. -/
  place : Bool
  /-- Whether the place can be written. -/
  writable : Bool
  /-- Whether the language lets it be assigned to. -/
  mutable : Bool
  deriving DecidableEq, Repr

/-- A literal. Only whole numbers need a value here. -/
structure Literal where
  /-- The type. -/
  scalar : Scalar
  /-- The value of a whole number. -/
  value? : Option Int
  deriving DecidableEq, Repr

/-- An expression. -/
inductive Term where
  | literal (line : Nat) (literal : Literal)
  | named (line : Nat) (meaning : Variable)
  | access (line : Nat) (base index : Term)
  | select (line : Nat) (base : Term) (field : Text)
  | unary (line : Nat) (operator : UnaryOperator) (operand : Term)
  | binary (line : Nat) (operator : Operator) (left right : Term)
  | construct (line : Nat) (ty : Ty) (arguments : List Term)
  | call (line : Nat) (function : Text) (arguments : List Term)
  | method (line : Nat) (base : Term) (name : Text) (arguments : List Term)
  | conditional (line : Nat) (condition accept reject : Term)
  | assign (line : Nat) (target value : Term)
  | update (line : Nat) (target : Term)

/-- The line that diagnostics about a term name. -/
def Term.line : Term → Nat
  | literal line _ | named line _ | access line _ _ | select line _ _ | unary line _ _
  | binary line _ _ _ | construct line _ _ | call line _ _ | method line _ _ _
  | conditional line _ _ _ | assign line _ _ | update line _ => line

end ShaderBundle.Glsl
