import ShaderBundle.Text.Bytes
import ShaderBundle.Text.Decimal
import ShaderBundle.Toml.Document

/-!
# Words of TOML

What a document is made of below the level of values: blanks, comments, line ends, keys, strings,
numbers and dates.

## Main definitions

* `Toml.Cursor` is a position in a text with what follows it.
* `Cursor.key?`, `Cursor.string?`, `Cursor.number?` and `Cursor.datetime?` read the words.

## Implementation notes

A reader gives `none` where no such word stands. Whatever the reader leaves over is read by someone
else, so nothing here looks further than its own word.

Strings come in four kinds, in one line or several and with escapes or without. A number keeps its
value and not its spelling: a whole one is an integer, and one with a fraction or an exponent
becomes the nearest number in binary.

Of a date or a time only the place is kept. No setting is one, so that there is one is all that has
to be known; that it is spelled correctly decides whether the text is a document.
-/

namespace ShaderBundle.Toml

/-- A position in a text. -/
structure Cursor where
  /-- What follows. -/
  rest : Text
  /-- How many bytes precede. -/
  offset : Nat
  deriving DecidableEq, Repr

namespace Cursor

/-- The position behind `front`, which has to be what follows. -/
def behind (c : Cursor) (front rest : Text) : Cursor :=
  ⟨rest, c.offset + Text.size front⟩

/-- The position behind the characters that satisfy `p`, and the characters. -/
def take (p : Char → Bool) (c : Cursor) : Text × Cursor :=
  let front := c.rest.takeWhile p
  (front, c.behind front (c.rest.dropWhile p))

/-- The position behind a word. -/
def accept? (word : Text) (c : Cursor) : Option Cursor :=
  if word.isPrefixOf c.rest then some (c.behind word (c.rest.drop word.length)) else none

/-- A blank within a line. -/
def isSpace (x : Char) : Bool :=
  x = ' ' || x = '\t'

/-- Whether a character may stand in a comment or between single quotes. -/
def isPlain (x : Char) : Bool :=
  x = '\t' || (' ' ≤ x && x ≠ '\x7f')

/-- Skips blanks within a line. -/
def skipSpace (c : Cursor) : Cursor :=
  (c.take isSpace).2

/-- The position behind a line end. -/
def newline? (c : Cursor) : Option Cursor :=
  match c.rest with
  | '\n' :: rest => some (c.behind ['\n'] rest)
  | '\r' :: '\n' :: rest => some (c.behind ['\r', '\n'] rest)
  | _ => none

/-- Skips a comment, if one stands here. -/
def skipComment (c : Cursor) : Cursor :=
  match c.rest with
  | '#' :: _ => (c.take isPlain).2
  | _ => c

/-- The position behind the end of a line or at the end of the text. -/
def lineEnd? (c : Cursor) : Option Cursor :=
  if c.rest.isEmpty then some c else c.newline?

/-- The position behind the rest of a line that holds nothing more. -/
def restOfLine? (c : Cursor) : Option Cursor :=
  c.skipSpace.skipComment.lineEnd?

/-- Skips blanks, comments and line ends. The fuel bounds the number of lines. -/
def skipLines : Nat → Cursor → Cursor
  | 0, c => c
  | fuel + 1, c =>
    let after := c.skipSpace.skipComment
    match after.newline? with
    | some next => skipLines fuel next
    | none => after

/-- Skips everything that separates the items of an array. -/
def skipBetween (c : Cursor) : Cursor :=
  skipLines c.rest.length c

/-! ### Strings -/

/-- The value of a hexadecimal digit. -/
def hexValue? (x : Char) : Option Nat :=
  if '0' ≤ x && x ≤ '9' then some (x.toNat - '0'.toNat)
  else if 'a' ≤ x && x ≤ 'f' then some (x.toNat - 'a'.toNat + 10)
  else if 'A' ≤ x && x ≤ 'F' then some (x.toNat - 'A'.toNat + 10)
  else none

/-- The number that hexadecimal digits denote. -/
def hexNumber? : Nat → Text → Option Nat
  | n, [] => some n
  | n, x :: rest =>
    match hexValue? x with
    | none => none
    | some digit => hexNumber? (16 * n + digit) rest

/-- The character that so many hexadecimal digits denote, and what follows them. -/
def hexChar? (count : Nat) (s : Text) : Option (Char × Text) :=
  if s.length < count then none
  else match hexNumber? 0 (s.take count) with
    | none => none
    | some n => if n.isValidChar then some (Char.ofNat n, s.drop count) else none

/-- The character behind a backslash, and what follows it. -/
def escape? : Text → Option (Char × Text)
  | 'b' :: rest => some ('\x08', rest)
  | 'f' :: rest => some ('\x0c', rest)
  | 'n' :: rest => some ('\n', rest)
  | 'r' :: rest => some ('\r', rest)
  | 't' :: rest => some ('\t', rest)
  | '"' :: rest => some ('"', rest)
  | '\\' :: rest => some ('\\', rest)
  | 'u' :: rest => hexChar? 4 rest
  | 'U' :: rest => hexChar? 8 rest
  | _ => none

/-- What follows a line end. -/
def afterNewline? : Text → Option Text
  | '\n' :: rest => some rest
  | '\r' :: '\n' :: rest => some rest
  | _ => none

/-- What follows a backslash at the end of a line: the text from the next character that is neither
a blank nor a line end. -/
def afterFold? (s : Text) : Option Text :=
  match afterNewline? (s.dropWhile isSpace) with
  | none => none
  | some rest => some (skipFolded rest.length rest)
where
  skipFolded : Nat → Text → Text
    | 0, s => s
    | fuel + 1, s =>
      let rest := s.dropWhile isSpace
      match afterNewline? rest with
      | some next => skipFolded fuel next
      | none => rest

/-- The rest of a string in double quotes on one line, and what follows it. -/
def basic? : Nat → Text → Option (Text × Text)
  | 0, _ => none
  | fuel + 1, s =>
    match s with
    | [] => none
    | '"' :: rest => some ([], rest)
    | '\\' :: rest => do
      let (x, rest) ← escape? rest
      let (text, rest) ← basic? fuel rest
      return (x :: text, rest)
    | x :: rest => do
      if !isPlain x then none
      let (text, rest) ← basic? fuel rest
      return (x :: text, rest)

/-- The rest of a string in single quotes on one line, and what follows it. -/
def literal? : Text → Option (Text × Text)
  | [] => none
  | '\'' :: rest => some ([], rest)
  | x :: rest => do
    if !isPlain x then none
    let (text, rest) ← literal? rest
    return (x :: text, rest)

/-- The rest of a string over several lines, and what follows it. Up to two quotes may precede the
three at its end. -/
def lines? (quote : Char) : Nat → Text → Option (Text × Text)
  | 0, _ => none
  | fuel + 1, s =>
    match s with
    | [] => none
    | x :: rest =>
      if x = quote then
        let quotes := (s.takeWhile (· = quote)).length
        if quotes ≥ 6 then none
        else if quotes ≥ 3 then some (List.replicate (quotes - 3) quote, s.drop quotes)
        else do
          let (text, rest) ← lines? quote fuel (s.drop quotes)
          return (List.replicate quotes quote ++ text, rest)
      else match afterNewline? s with
        | some rest => do
          let (text, rest) ← lines? quote fuel rest
          return ('\n' :: text, rest)
        | none =>
          if x = '\\' && quote = '"' then
            match afterFold? rest with
            | some rest => lines? quote fuel rest
            | none => do
              let (y, rest) ← escape? rest
              let (text, rest) ← lines? quote fuel rest
              return (y :: text, rest)
          else if isPlain x then do
            let (text, rest) ← lines? quote fuel rest
            return (x :: text, rest)
          else none

/-- The text without a line end at its front. -/
def dropNewline (s : Text) : Text :=
  (afterNewline? s).getD s

/-- The position from which `rest` follows. -/
def upTo (c : Cursor) (rest : Text) : Cursor :=
  ⟨rest, c.offset + (Text.size c.rest - Text.size rest)⟩

/-- A string on one line, with the quotes that it begins with. -/
def quoted? (c : Cursor) : Option (Text × Cursor) :=
  match c.rest with
  | '"' :: rest => (basic? (rest.length + 1) rest).map fun (text, rest) => (text, c.upTo rest)
  | '\'' :: rest => (literal? rest).map fun (text, rest) => (text, c.upTo rest)
  | _ => none

/-- A string of any kind. -/
def string? (c : Cursor) : Option (Text × Cursor) :=
  match c.rest with
  | '"' :: '"' :: '"' :: rest =>
    (lines? '"' (rest.length + 1) (dropNewline rest)).map fun (text, rest) => (text, c.upTo rest)
  | '\'' :: '\'' :: '\'' :: rest =>
    (lines? '\'' (rest.length + 1) (dropNewline rest)).map fun (text, rest) => (text, c.upTo rest)
  | _ => c.quoted?

/-! ### Keys -/

/-- A character of a key without quotes. -/
def isBare (x : Char) : Bool :=
  x.isAlphanum || x = '_' || x = '-'

/-- One key. -/
def simpleKey? (c : Cursor) : Option (Key × Cursor) :=
  match c.quoted? with
  | some (name, after) => some (⟨name, c.offset, after.offset⟩, after)
  | none =>
    match c.take isBare with
    | ([], _) => none
    | (name, after) => some (⟨name, c.offset, after.offset⟩, after)

/-- The keys that points join. -/
def keys? : Nat → Cursor → Option (List Key × Cursor)
  | 0, _ => none
  | fuel + 1, c => do
    let (key, after) ← c.skipSpace.simpleKey?
    let after := after.skipSpace
    match after.accept? ['.'] with
    | none => return ([key], after)
    | some next =>
      let (others, after) ← keys? fuel next
      return (key :: others, after)

/-- How deep keys and values may be nested. -/
def deepest : Nat := 80

/-- The keys that points join: those on the way and the last one. -/
def path? (c : Cursor) : Option (List Key × Key × Cursor) := do
  let (keys, after) ← c.keys? deepest
  let last ← keys.getLast?
  if keys.length ≥ deepest then none
  return (keys.dropLast, last, after)

/-! ### Numbers -/

/-- Digits with single underscores between them. Only the digits are kept. -/
def digitsAfter (isDigit : Char → Bool) : Text → Text × Text
  | '_' :: x :: rest =>
    if isDigit x then
      let (digits, rest) := digitsAfter isDigit rest
      (x :: digits, rest)
    else ([], '_' :: x :: rest)
  | x :: rest =>
    if isDigit x then
      let (digits, rest) := digitsAfter isDigit rest
      (x :: digits, rest)
    else ([], x :: rest)
  | [] => ([], [])

/-- At least one digit, with underscores between digits. -/
def digits? (isDigit : Char → Bool) : Text → Option (Text × Text)
  | [] => none
  | x :: rest =>
    if isDigit x then
      let (digits, rest) := digitsAfter isDigit rest
      some (x :: digits, rest)
    else none

/-- A sign, if one stands here, and whether it is minus. -/
def sign : Text → Bool × Text
  | '-' :: rest => (true, rest)
  | '+' :: rest => (false, rest)
  | s => (false, s)

/-- The digits of a whole number in decimal, without leading zeros. -/
def whole? : Text → Option (Text × Text)
  | '0' :: rest => some (['0'], rest)
  | s => digits? isDigit s

/-- The digits behind a point. -/
def fraction? : Text → Option (Text × Text)
  | '.' :: rest => digits? isDigit rest
  | _ => none

/-- An exponent of ten. -/
def exponent? : Text → Option (Int × Text)
  | x :: rest =>
    if x = 'e' || x = 'E' then
      let (negative, rest) := sign rest
      (digits? isDigit rest).map fun (digits, rest) =>
        (if negative then -(digitsValue digits : Int) else digitsValue digits, rest)
    else none
  | [] => none

/-- A number with a point or an exponent. A number too large for its format is none, unless it is
negative. -/
def float? (s : Text) : Option (Scalar × Text) := do
  let (negative, s) := sign s
  let (whole, s) ← whole? s
  let ((fraction, power), s) ← match fraction? s with
    | some (fraction, rest) => match exponent? rest with
      | some (power, rest) => some ((fraction, power), rest)
      | none => some ((fraction, 0), rest)
    | none => match exponent? s with
      | some (power, rest) => some (([], power), rest)
      | none => none
  let number := Binary.ofDecimal binary64 negative (digitsValue (whole ++ fraction))
    (power - fraction.length)
  if number = .infinite false then none
  return (.float number, s)

/-- The words for numbers that are not finite. -/
def special? (s : Text) : Option (Scalar × Text) :=
  let (negative, s) := sign s
  match s with
  | 'i' :: 'n' :: 'f' :: rest => some (.float (.infinite negative), rest)
  | 'n' :: 'a' :: 'n' :: rest => some (.float (.nan negative), rest)
  | _ => none

/-- The number that digits of a base denote. -/
def baseValue (base : Nat) (digits : Text) : Nat :=
  digits.foldl (fun n x => base * n + (hexValue? x).getD 0) 0

/-- A whole number of a base below ten or of sixteen. -/
def based? (base : Nat) (s : Text) : Option (Nat × Text) :=
  (digits? (fun x => match hexValue? x with
    | some digit => digit < base
    | none => false) s).map fun (digits, rest) => (baseValue base digits, rest)

/-- A whole number that fits a signed word of 64 bits. -/
def integer? (s : Text) : Option (Scalar × Text) := do
  let ((value : Int), rest) ← match s with
    | '0' :: 'x' :: rest => (based? 16 rest).map fun (n, rest) => ((n : Int), rest)
    | '0' :: 'o' :: rest => (based? 8 rest).map fun (n, rest) => ((n : Int), rest)
    | '0' :: 'b' :: rest => (based? 2 rest).map fun (n, rest) => ((n : Int), rest)
    | _ =>
      let (negative, rest) := sign s
      (whole? rest).map fun (digits, rest) =>
        (if negative then -(digitsValue digits : Int) else digitsValue digits, rest)
  if value < -9223372036854775808 || value > 9223372036854775807 then none
  return (.integer value, rest)

/-! ### Dates and times -/

/-- A number of so many digits within bounds. -/
def field? (count low high : Nat) (s : Text) : Option (Nat × Text) :=
  let digits := s.take count
  let n := digitsValue digits
  if digits.length = count && digits.all isDigit && low ≤ n && n ≤ high then some (n, s.drop count)
  else none

/-- What follows a character. -/
def after? (x : Char) : Text → Option Text
  | y :: rest => if y = x then some rest else none
  | [] => none

/-- The number of days of a month. -/
def daysOf (year month : Nat) : Nat :=
  if month = 2 then
    if year % 4 = 0 && (year % 100 ≠ 0 || year % 400 = 0) then 29 else 28
  else if month = 4 || month = 6 || month = 9 || month = 11 then 30
  else 31

/-- What follows a date. -/
def date? (s : Text) : Option Text := do
  let (year, s) ← field? 4 0 9999 s
  let s ← after? '-' s
  let (month, s) ← field? 2 1 12 s
  let s ← after? '-' s
  let (_, s) ← field? 2 1 (daysOf year month) s
  return s

/-- What follows a time of day. -/
def time? (s : Text) : Option Text := do
  let (_, s) ← field? 2 0 23 s
  let s ← after? ':' s
  let (_, s) ← field? 2 0 59 s
  let s ← after? ':' s
  let (_, s) ← field? 2 0 60 s
  match s with
  | '.' :: rest =>
    match spanDigits rest with
    | ([], _) => return s
    | (_, rest) => return rest
  | _ => return s

/-- What follows an offset from universal time, or the text itself if there is none. -/
def dropOffset (s : Text) : Text :=
  match s with
  | 'Z' :: rest | 'z' :: rest => rest
  | '+' :: rest | '-' :: rest => (clock? rest).getD s
  | _ => s
where
  clock? (s : Text) : Option Text := do
    let (_, s) ← field? 2 0 23 s
    let s ← after? ':' s
    let (_, s) ← field? 2 0 59 s
    return s

/-- What follows a date, a time of day or both. -/
def datetime? (s : Text) : Option (Scalar × Text) :=
  match date? s with
  | some rest =>
    match rest with
    | x :: fromTime =>
      if x = 'T' || x = 't' || x = ' ' then
        match time? fromTime with
        | some rest => some (.datetime, dropOffset rest)
        | none => some (.datetime, rest)
      else some (.datetime, rest)
    | [] => some (.datetime, rest)
  | none => (time? s).map fun rest => (.datetime, rest)

/-- A value that begins with a digit or a sign. -/
def number? (s : Text) : Option (Scalar × Text) :=
  (((datetime? s).or (float? s)).or (special? s)).or (integer? s)

end Cursor

end ShaderBundle.Toml
