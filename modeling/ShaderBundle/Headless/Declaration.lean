import ShaderBundle.Text.Decimal
import ShaderBundle.Text.Lines

/-!
# Global declarations, line by line

Whether a line declares a global `uniform`, `in` or `out` is decided from the line alone, without
parsing the shader: a declaration is recognised when it stands on one line and has no layout.

## Main definitions

* `Storage` is the kind of storage a declaration asks for.
* `Declaration.bare?` recognises a declaration without a layout, or the head of a uniform block.
* `explicitLocation?` reads the location off a declaration that has a layout.
-/

namespace ShaderBundle.Headless

/-- The storage of a global declaration. -/
inductive Storage where
  | uniform
  | input
  | output
  deriving DecidableEq, Repr

/-- The word for the storage. -/
def Storage.word : Storage → Text
  | uniform => ['u', 'n', 'i', 'f', 'o', 'r', 'm']
  | input => ['i', 'n']
  | output => ['o', 'u', 't']

/-- The storage that a word asks for. -/
def Storage.ofWord? (word : Text) : Option Storage :=
  [uniform, input, output].find? fun storage => storage.word == word

/-- The qualifiers that may precede the storage of a declaration. -/
def interpolations : List Text :=
  ["flat".toList, "smooth".toList, "noperspective".toList, "centroid".toList]

/-- A declaration without a layout. -/
structure Declaration where
  /-- The storage it asks for. -/
  storage : Storage
  /-- The declared name; nothing for a block. -/
  name : Text
  deriving DecidableEq, Repr

/-- The text without a semicolon at its end, if it has one. -/
def dropSemicolon? (s : Text) : Option Text :=
  if s.getLast? = some ';' then some s.dropLast else none

/-- Whether the words behind `uniform` are those of a block's head. -/
def isBlockHead : List Text → Bool
  | [name] => !name.contains ';'
  | [_, brace] => brace == ['{']
  | _ => false

/-- The declaration without a layout on a line. Nothing with a parenthesis is taken for one. -/
def Declaration.bare? (line : Text) : Option Declaration :=
  let s := line.trim
  if "layout".toList.isPrefixOf s || s.contains '(' || s.contains ')' then none
  else match s.words.dropWhile interpolations.contains with
    | [] => none
    | word :: rest =>
      match Storage.ofWord? word with
      | none => none
      | some storage =>
        match dropSemicolon? s with
        | some body =>
          if rest.length < 2 || body.contains '{' then none
          else (Text.words body).getLast?.map fun last =>
            { storage, name := last.takeWhile (· ≠ '[') }
        | none =>
          if storage = .uniform && isBlockHead rest then some { storage, name := [] } else none

/-- What comes before the first `sep` and what comes after it. -/
def splitOnce? (sep : Char) : Text → Option (Text × Text)
  | [] => none
  | c :: rest =>
    if c = sep then some ([], rest)
    else (splitOnce? sep rest).map fun (before, after) => (c :: before, after)

/-- The parts between commas. -/
def splitCommas : Text → List Text
  | [] => [[]]
  | c :: rest =>
    if c = ',' then [] :: splitCommas rest
    else match splitCommas rest with
      | [] => [[c]]
      | first :: others => (c :: first) :: others

/-- The location that one argument of a layout gives. -/
def locationArgument? (argument : Text) : Option Nat :=
  match splitOnce? '=' argument with
  | none => none
  | some (key, value) =>
    if key.trim = "location".toList then readWord? value.trim else none

/-- The storage and location of a declaration that has both a layout and a storage. -/
def explicitLocation? (line : Text) : Option (Storage × Nat) :=
  let s := line.trim
  if "layout".toList.isPrefixOf s then
    match Text.trimStart (s.drop 6) with
    | '(' :: rest =>
      match splitOnce? ')' rest with
      | none => none
      | some (arguments, tail) =>
        match tail.words.findSome? Storage.ofWord?, (splitCommas arguments).findSome?
          locationArgument? with
        | some storage, some location => some (storage, location)
        | _, _ => none
    | _ => none
  else none

end ShaderBundle.Headless
