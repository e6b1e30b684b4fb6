import ShaderBundle.Text.Decimal

/-!
# JSON output

Reports for other programs are written as JSON, one value to a line and nested values two blanks
further in.

## Main definitions

* `JsonValue` is a value. The fields of an object stay in the order they are given in.
* `JsonValue.pretty` writes a value.
-/

namespace ShaderBundle

/-- A JSON value. Numbers are those of lines and the like, which are never negative. -/
inductive JsonValue where
  | text (s : Text)
  | number (n : Nat)
  | flag (b : Bool)
  | list (items : List JsonValue)
  | object (fields : List (Text × JsonValue))

namespace JsonValue

/-- A character within a JSON string. Only quotes, backslashes and control characters are written
in another way. -/
def escape (c : Char) : Text :=
  if c = '"' then ['\\', '"']
  else if c = '\\' then ['\\', '\\']
  else if c = '\x08' then ['\\', 'b']
  else if c = '\t' then ['\\', 't']
  else if c = '\n' then ['\\', 'n']
  else if c = '\x0c' then ['\\', 'f']
  else if c = '\r' then ['\\', 'r']
  else if c.toNat < 16 then "\\u000".toList ++ Nat.toDigits 16 c.toNat
  else if c.toNat < 32 then "\\u00".toList ++ Nat.toDigits 16 c.toNat
  else [c]

/-- A JSON string. -/
def quote (s : Text) : Text :=
  '"' :: s.flatMap escape ++ ['"']

/-- The start of a line at some depth. -/
def newLine (depth : Nat) : Text :=
  '\n' :: List.replicate (2 * depth) ' '

mutual

/-- A value whose lines after the first one start at some depth. -/
def write (depth : Nat) : JsonValue → Text
  | text s => quote s
  | number n => decimal n
  | flag b => if b then "true".toList else "false".toList
  | list [] => ['[', ']']
  | list (first :: others) =>
    '[' :: newLine (depth + 1) ++ write (depth + 1) first ++ writeItems (depth + 1) others ++
      newLine depth ++ [']']
  | object [] => ['\x7b', '\x7d']
  | object ((name, first) :: others) =>
    '\x7b' :: newLine (depth + 1) ++ quote name ++ ": ".toList ++ write (depth + 1) first ++
      writeFields (depth + 1) others ++ newLine depth ++ ['\x7d']

/-- The items of a list behind the first one. -/
def writeItems (depth : Nat) : List JsonValue → Text
  | [] => []
  | item :: others => ',' :: newLine depth ++ write depth item ++ writeItems depth others

/-- The fields of an object behind the first one. -/
def writeFields (depth : Nat) : List (Text × JsonValue) → Text
  | [] => []
  | (name, value) :: others =>
    ',' :: newLine depth ++ quote name ++ ": ".toList ++ write depth value ++
      writeFields depth others

end

/-- The value as a text without a final line feed. -/
def pretty (value : JsonValue) : Text :=
  value.write 0

end JsonValue

end ShaderBundle
