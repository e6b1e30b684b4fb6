import ShaderBundle.Bundle.Block
import ShaderBundle.Bundle.Outline

/-!
# Splitting a unified shader file

A unified shader file starts with a header that all stages share. A pragma that names a stage opens
that stage's block, which runs to the next such pragma or to the end of the file.

## Main definitions

* `Bundle` is a file taken apart.
* `Bundle.split` takes a file apart, or says why it cannot.

## Implementation notes

The checks come in a fixed order, so that of several problems the most basic one is reported:
required stages, pragmas, the version directive, entry marks in the header, and then each block in
file order.
-/

namespace ShaderBundle

/-- A unified shader file taken apart. -/
structure Bundle where
  /-- The logical name of the file. -/
  name : Text
  /-- The lines before the first stage, joined. -/
  header : Text
  /-- The version directive, trimmed. -/
  version : Text
  /-- The blocks in file order. -/
  blocks : List Block
  deriving DecidableEq, Repr

namespace Bundle

/-- The stages in file order. -/
def stages (bundle : Bundle) : List Stage :=
  bundle.blocks.map Block.stage

/-- The block of a stage. -/
def block? (bundle : Bundle) (stage : Stage) : Option Block :=
  bundle.blocks.find? fun block => block.stage = stage

/-- The lines with indices from `start` up to, not including, `stop`. -/
def between (start stop : Nat) (ls : List Text) : List Text :=
  (ls.take stop).drop start

/-- The version directive among header lines, given with their masked copies. -/
def version? : List Text → List Text → Option Text
  | line :: ls, masked :: ms =>
    if Directive.isVersion masked then some line.trim else version? ls ms
  | _, _ => none

/-- The block that `marker` opens and that ends before line `stop`, or what is wrong with it. -/
def readBlock (ls masked : List Text) (header : Text) (headerLines : Nat) (marker : Marker)
    (stop : Nat) : Except SplitError Block :=
  let start := marker.line + 1
  let place := LineRange.spanning (marker.line + 1) stop
  let body := Text.unlines (between start stop ls)
  let maskedBody := Text.unlines (between start stop masked)
  if maskedBody.isAllBlank then .error (.malformed (some marker.stage) place .emptyBody)
  else match Entry.toMain body maskedBody (start + 1) with
    | .error fault => .error (.malformed (some marker.stage) place fault)
    | .ok (renamed, entry) => .ok
      { stage := marker.stage
        source := header ++ '\n' :: renamed
        entry := entry
        headerLines := headerLines
        body := .spanning (start + 1) stop }

/-- The blocks that the markers open, up to the first one with a fault. -/
def readBlocks (ls masked : List Text) (header : Text) (headerLines : Nat) :
    List Marker → Except SplitError (List Block)
  | [] => .ok []
  | [last] => do
    let block ← readBlock ls masked header headerLines last ls.length
    return [block]
  | marker :: next :: rest => do
    let block ← readBlock ls masked header headerLines marker next.line
    let blocks ← readBlocks ls masked header headerLines (next :: rest)
    return block :: blocks

/-- Takes a file apart whose outline has no problem. -/
def ofOutline (name : Text) (ls masked : List Text) (markers : List Marker) :
    Except SplitError Bundle :=
  let headerLines := match markers with
    | [] => ls.length
    | first :: _ => first.line
  match version? (ls.take headerLines) (masked.take headerLines) with
  | none => .error .missingVersion
  | some version =>
    match (masked.take headerLines).findIdx? fun line => !(Entry.marks line).isEmpty with
    | some index => .error (.malformed none (.single (index + 1)) .entryInHeader)
    | none => do
      let header := Text.unlines (ls.take headerLines)
      let blocks ← readBlocks ls masked header headerLines markers
      return { name, header, version, blocks }

/-- Takes a file apart. -/
def split (options : SplitOptions) (name text : Text) : Except SplitError Bundle :=
  let ls := text.lines
  let masked := (mask text).lines
  let outline := Outline.ofLines options masked
  if !outline.missing.isEmpty then .error (.incomplete outline.missing)
  else match outline.problem with
    | some problem => .error problem
    | none => ofOutline name ls masked outline.markers

end Bundle

end ShaderBundle
