import ShaderBundle.Glsl.Token
import ShaderBundle.Text.Lines

/-!
# Lexemes

A shader before preprocessing: words, numbers, punctuation and line ends, each with its line.
Comments and blanks separate lexemes and leave no trace. A backslash at the end of a line joins the
line to the next.

## Main definitions

* `Lexeme` is a lexeme, `Placed` puts a line to it.
* `scan` reads a whole shader.
-/

namespace ShaderBundle.Glsl

/-- A piece of a shader before preprocessing. -/
inductive Lexeme where
  | word (name : Text)
  | token (found : Token)
  | hash
  | lineEnd
  | stray
  deriving DecidableEq, Repr

/-- Something on a line. -/
structure Placed (α : Type) where
  /-- What stands there. -/
  value : α
  /-- The line, counted from one. -/
  line : Nat
  deriving DecidableEq, Repr

/-! ### Numbers -/

/-- The exponent of a number and what follows it. -/
def scanExponent : Text → Option (Int × Text)
  | e :: rest =>
    if e = 'e' || e = 'E' then
      let (negative, unsigned) := match rest with
        | '-' :: more => (true, more)
        | '+' :: more => (false, more)
        | _ => (false, rest)
      match spanDigits unsigned with
      | ([], _) => none
      | (ds, behind) =>
        some (if negative then -(digitsValue ds : Int) else (digitsValue ds : Int), behind)
    else none
  | [] => none

/-- The width that the suffix of a floating-point number asks for, and what follows it. -/
def scanFloatSuffix : Text → Nat × Text
  | 'f' :: rest | 'F' :: rest => (32, rest)
  | 'l' :: 'f' :: rest | 'L' :: 'F' :: rest => (64, rest)
  | rest => (32, rest)

/-- A floating-point number by its digits, and what follows its suffix. -/
def floatLexeme (digits : Text) (exponent : Int) (rest : Text) : Lexeme × Text :=
  let (width, behind) := scanFloatSuffix rest
  (.token (.float (Binary.ofDecimal binary32 false (digitsValue digits) exponent) width), behind)

/-- A whole number, and what follows its suffix. -/
def wholeLexeme (value : Nat) : Text → Lexeme × Text
  | 'u' :: rest | 'U' :: rest => (.token (.int value false), rest)
  | rest => (.token (.int value true), rest)

/-- The value of a hexadecimal digit. -/
def hexDigit? (c : Char) : Option Nat :=
  if isDigit c then some (digitValue c)
  else if 'a' ≤ c && c ≤ 'f' then some (c.toNat - 'a'.toNat + 10)
  else if 'A' ≤ c && c ≤ 'F' then some (c.toNat - 'A'.toNat + 10)
  else none

/-- The value of a run of digits in a base. -/
def baseValue (base : Nat) (ds : Text) : Nat :=
  ds.foldl (fun n c => base * n + (hexDigit? c).getD 0) 0

/-- A number that starts with a decimal digit or a point, and what follows it. -/
def scanNumber (s : Text) : Lexeme × Text :=
  match s with
  | '0' :: 'x' :: rest | '0' :: 'X' :: rest =>
    let isHex (c : Char) := (hexDigit? c).isSome
    wholeLexeme (baseValue 16 (rest.takeWhile isHex)) (rest.dropWhile isHex)
  | _ =>
    let (whole, rest) := spanDigits s
    let (fraction?, behind) := match rest with
      | '.' :: more => (some (spanDigits more).1, (spanDigits more).2)
      | _ => (none, rest)
    match scanExponent behind, fraction? with
    | some (exponent, final), _ =>
      let fraction := fraction?.getD []
      floatLexeme (whole ++ fraction) (exponent - fraction.length) final
    | none, some fraction => floatLexeme (whole ++ fraction) (-(fraction.length : Int)) behind
    | none, none =>
      match behind with
      | 'f' :: _ | 'F' :: _ => floatLexeme whole 0 behind
      | _ =>
        wholeLexeme (if whole.head? = some '0' then baseValue 8 whole else digitsValue whole) behind

/-! ### Scanning -/

/-- Whether a word may start with a character. -/
def isWordStart (c : Char) : Bool :=
  isWordChar c && !isDigit c

/-- What follows a block comment, and how many line ends it holds. -/
def skipBlockComment : Text → Nat × Text
  | [] => (0, [])
  | '*' :: '/' :: rest => (0, rest)
  | c :: rest =>
    let (feeds, behind) := skipBlockComment rest
    (if c = '\n' then feeds + 1 else feeds, behind)

/-- Whether a number starts here. -/
def startsNumber : Text → Bool
  | '.' :: c :: _ => isDigit c
  | c :: _ => isDigit c
  | [] => false

/-- The lexemes from a line on. Every step takes at least one character, so the length of the text
is fuel enough. -/
def scanFrom : Nat → Nat → Text → List (Placed Lexeme)
  | 0, _, _ => []
  | fuel + 1, line, s =>
    match s with
    | [] => []
    | '\n' :: rest => ⟨.lineEnd, line⟩ :: scanFrom fuel (line + 1) rest
    | '\\' :: '\n' :: rest | '\\' :: '\r' :: '\n' :: rest => scanFrom fuel (line + 1) rest
    | '/' :: '/' :: rest => scanFrom fuel line (rest.dropWhile (· ≠ '\n'))
    | '/' :: '*' :: rest =>
      let (feeds, behind) := skipBlockComment rest
      scanFrom fuel (line + feeds) behind
    | '#' :: rest => ⟨.hash, line⟩ :: scanFrom fuel line rest
    | c :: rest =>
      if isScanBlank c || c = '\x0b' then scanFrom fuel line rest
      else if isWordStart c then
        ⟨.word (s.takeWhile isWordChar), line⟩ :: scanFrom fuel line (s.dropWhile isWordChar)
      else if startsNumber s then
        let (number, behind) := scanNumber s
        ⟨number, line⟩ :: scanFrom fuel line behind
      else match punctuation.find? fun (spelling, _) => spelling.toList.isPrefixOf s with
        | some (spelling, _) =>
          ⟨.token (.fixed spelling), line⟩ :: scanFrom fuel line (s.drop spelling.length)
        | none => ⟨.stray, line⟩ :: scanFrom fuel line rest

/-- The lexemes of a shader. -/
def scan (s : Text) : List (Placed Lexeme) :=
  scanFrom s.length 1 s

end ShaderBundle.Glsl
