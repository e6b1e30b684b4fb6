import ShaderBundle.Bundle.Fault
import ShaderBundle.Text.Comments

/-!
# Entry functions

In every stage one function is marked `@entry`. The stage's source gets it under the name `main`:
the mark is blanked out with as many spaces, so that columns before the name stay, and the name is
replaced.

## Main definitions

* `Entry.marks` gives the byte positions of the marks in a masked text.
* `Entry.scan` reads `type name ( … ) {` behind a mark.
* `Entry.toMain` finds the one entry function of a stage body and renames it.

## Implementation notes

Marks and names are found in the masked body and edited in the body itself. Both have the same
bytes outside comments, and neither a mark nor a name has a comment in it, so the cuts fall between
characters.
-/

namespace ShaderBundle.Entry

/-- The mark in front of an entry function. -/
def sign : Text := ['@', 'e', 'n', 't', 'r', 'y']

/-- The name every entry function gets. -/
def mainName : Text := ['m', 'a', 'i', 'n']

/-- Whether a mark stands at the front: the sign, and no letter or digit that continues it. -/
def startsWithMark (s : Text) : Bool :=
  sign.isPrefixOf s &&
    match s.drop sign.length with
    | [] => true
    | next :: _ => !isWordChar next

/-- The byte positions of the marks of `s`, counted from `position`. -/
def marksFrom (position : Nat) : Text → List Nat
  | [] => []
  | c :: rest =>
    if startsWithMark (c :: rest) then position :: marksFrom (position + width c) rest
    else marksFrom (position + width c) rest

/-- The byte positions of the marks of a text. -/
def marks (s : Text) : List Nat :=
  marksFrom 0 s

/-- The identifier at the front of a text, and the rest. -/
def identifier? : Text → Option (Text × Text)
  | [] => none
  | c :: rest =>
    if c.isAlpha || c = '_' then some (c :: rest.takeWhile isWordChar, rest.dropWhile isWordChar)
    else none

/-- What follows the parenthesis that closes the one open at the front, `depth` more being open. -/
def closeParens? : Nat → Text → Option Text
  | _, [] => none
  | depth, c :: rest =>
    if c = '(' then closeParens? (depth + 1) rest
    else if c = ')' then
      match depth with
      | 0 => some rest
      | outer + 1 => closeParens? outer rest
    else closeParens? depth rest

/-- The text without the blanks allowed between tokens. -/
def skip (s : Text) : Text :=
  s.dropWhile isScanBlank

/-- The place of an entry function's name. -/
structure Name where
  /-- How many bytes lie between the mark and the name. -/
  lead : Nat
  /-- The name. -/
  text : Text
  deriving DecidableEq, Repr

/-- Reads `type name ( … ) {` from a masked text that follows a mark. -/
def scan (s : Text) : Except EntryFault Name :=
  match identifier? (skip s) with
  | none => .error .noDeclaration
  | some (_, afterType) =>
    match identifier? (skip afterType) with
    | none => .error .noName
    | some (name, afterName) =>
      match skip afterName with
      | '(' :: parameters =>
        match closeParens? 0 parameters with
        | none => .error .openParameters
        | some afterParameters =>
          match skip afterParameters with
          | '{' :: _ => .ok ⟨s.size - (skip afterType).size, name⟩
          | _ => .error .noBody
      | _ => .error .noParameters

/-- The line of a byte position in a masked body that starts on line `first`. -/
def lineOf (masked : Text) (first position : Nat) : Nat :=
  first + Text.feeds (Text.cut position masked).1

/-- The body with the mark at `position` blanked out and the name behind it replaced. -/
def rename (body : Text) (position : Nat) (name : Name) : Text :=
  let (front, fromMark) := Text.cut position body
  let (_, behindMark) := Text.cut sign.length fromMark
  let (lead, fromName) := Text.cut name.lead behindMark
  let (_, rest) := Text.cut name.text.size fromName
  front ++ List.replicate sign.length ' ' ++ lead ++ mainName ++ rest

/-- The renamed body and the name that the entry function had. -/
def toMain (body masked : Text) (first : Nat) : Except Fault (Text × Text) :=
  match marks masked with
  | [] => .error .noEntry
  | [position] =>
    match scan (Text.cut (position + sign.length) masked).2 with
    | .error cause => .error (.badEntry (lineOf masked first position) cause)
    | .ok name => .ok (rename body position name, name.text)
  | several => .error (.manyEntries (several.map (lineOf masked first)))

end ShaderBundle.Entry
