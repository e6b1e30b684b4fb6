import ShaderBundle.Bundle.Block

/-!
# Compiler logs

A GLSL compiler reports problems by lines of the source it was given. The library reports them by
lines of the file, so the line numbers in a log are replaced.

Three forms of a log line carry a number, where `0` stands for any number of the source string:

* `0:12(5): error: …` and `0:12: …`
* `0(12) : error C1008: …`
* either of them behind `ERROR:`, `WARNING:`, `error:` or `warning:`

## Main definitions

* `Diagnostic` is one line of a log with the line of the file it speaks of.
* `Place.find?` takes a log line apart around its line number.
* `Diagnostic.remap` turns a log into diagnostics through a map of lines.
* `Diagnostic.remapBlock?` uses the map of a block, as long as lines fit their words.
-/

namespace ShaderBundle

/-- One line of a compiler log. -/
structure Diagnostic where
  /-- The line of the file, if the log line has a number in a known form. -/
  line : Option Nat
  /-- The log line, with its number replaced. -/
  message : Text
  deriving DecidableEq, Repr

/-- A log line taken apart around the line number in it. -/
structure Place where
  /-- What comes before the number, without leading blanks. -/
  front : Text
  /-- The digits of the number. -/
  digits : Text
  /-- What comes after the number. -/
  back : Text
  deriving DecidableEq, Repr

namespace Place

/-- The words that may precede a place. -/
def severities : List Text :=
  ["ERROR:".toList, "WARNING:".toList, "error:".toList, "warning:".toList]

/-- A severity at the front, together with the spaces behind it, and the rest. -/
def spanSeverity (s : Text) : Text × Text :=
  match severities.find? fun word => word.isPrefixOf s with
  | none => ([], s)
  | some word =>
    let rest := s.drop word.length
    (word ++ rest.takeWhile (· = ' '), rest.dropWhile (· = ' '))

/-- Whether a character may follow the line number when `opener` precedes it. -/
def closes (opener c : Char) : Bool :=
  if opener = ':' then c = ':' || c = '(' else c = ')'

/-- The place at the front of a text that has neither leading blanks nor a severity. -/
def bare? (s : Text) : Option Place :=
  match spanDigits s with
  | ([], _) => none
  | (string, opener :: fromNumber) =>
    if opener = ':' || opener = '(' then
      match spanDigits fromNumber with
      | ([], _) => none
      | (digits, closer :: rest) =>
        if closes opener closer then some ⟨string ++ [opener], digits, closer :: rest⟩ else none
      | (_, []) => none
    else none
  | (_, []) => none

/-- The place in a log line. -/
def find? (line : Text) : Option Place :=
  let (severity, rest) := spanSeverity line.trimStart
  (bare? rest).map fun place => { place with front := severity ++ place.front }

/-- The line number, if it fits a word of 32 bits. -/
def number? (place : Place) : Option Nat :=
  readWord? place.digits

end Place

namespace Diagnostic

/-- The lines of a log that say something, without what some drivers pad them with. -/
def logLines (log : Text) : List Text :=
  (log.lines.map fun line => (line.dropEndWhile (· = '\x00')).trimEnd).filter (!·.isAllBlank)

/-- The line number that a log line carries. -/
def number? (line : Text) : Option Nat :=
  (Place.find? line).bind Place.number?

/-- A log line with its number sent through `toFile`. -/
def ofLine (toFile : Nat → Nat) (line : Text) : Diagnostic :=
  match Place.find? line with
  | none => ⟨none, line.trim⟩
  | some place =>
    match place.number? with
    | none => ⟨none, line.trim⟩
    | some n => ⟨some (toFile n), place.front ++ decimal (toFile n) ++ place.back⟩

/-- A log as diagnostics, with line numbers sent through `toFile`. -/
def remap (toFile : Nat → Nat) (log : Text) : List Diagnostic :=
  (logLines log).map (ofLine toFile)

/-- A log about a block's source as diagnostics about the file. There is none if a number in the
log is so large that its line in the file does not fit a word. -/
def remapBlock? (block : Block) (log : Text) : Option (List Diagnostic) :=
  if (logLines log).any fun line => (number? line).any block.overflows then none
  else some (remap block.fileLine log)

/-- The messages, one a line. -/
def render (diagnostics : List Diagnostic) : Text :=
  Text.unlines (diagnostics.map Diagnostic.message)

end Diagnostic

end ShaderBundle
