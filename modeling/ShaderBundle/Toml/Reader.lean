import ShaderBundle.Toml.Cursor

/-!
# Reading TOML

Values, pairs, headers and whole documents, made of the words that `Toml.Cursor` reads. A text is a
document or it is none; what is wrong with one that is none is not found out, since the settings
report no more than that.

This is the reader of documents that the programs of this library run with. Settings take any
reader, so nothing that is proved of them rests on the grammar here.

## Main definitions

* `Toml.value?` reads a value with everything in it.
* `Toml.read?` reads a document. There is none if the text is not TOML, which includes keys that are
  given twice.

## Implementation notes

Every step takes at least one character, so the length of the text bounds the recursion; `depth`
counts the brackets and braces around a value. The bound on the length and the bound on the depth
are different things: the first is there for the definition to end and is never reached, the second
is part of which texts are documents.

Places of items are kept along, as positions of bytes. They are what a fault in a field is reported
with.
-/

namespace ShaderBundle.Toml

/-- A value without parts that begins here, with its place. -/
def scalar? (c : Cursor) : Option (Item × Cursor) :=
  let placed (value : Scalar) (after : Cursor) : Item × Cursor :=
    (.scalar ⟨c.offset, after.offset⟩ value, after)
  match c.rest with
  | [] => none
  | x :: _ =>
    if x = '"' || x = '\'' then
      (c.string?).map fun (text, after) => placed (.string text) after
    else if isDigit x || x = '+' || x = '-' then
      (Cursor.number? c.rest).map fun (value, rest) => placed value (c.upTo rest)
    else if x = 't' then
      (c.accept? ['t', 'r', 'u', 'e']).map fun after => placed (.boolean true) after
    else if x = 'f' then
      (c.accept? ['f', 'a', 'l', 's', 'e']).map fun after => placed (.boolean false) after
    else
      (Cursor.special? c.rest).map fun (value, rest) => placed value (c.upTo rest)

mutual

/-- The value that begins here. -/
def value? : Nat → Nat → Cursor → Option (Item × Cursor)
  | 0, _, _ => none
  | fuel + 1, depth, c =>
    match c.rest with
    | '[' :: rest =>
      if depth + 1 ≥ Cursor.deepest then none
      else do
        let (items, after) ← items? fuel (depth + 1) (c.behind ['['] rest)
        return (.array ⟨c.offset, after.offset⟩ items, after)
    | '\x7b' :: rest =>
      if depth + 1 ≥ Cursor.deepest then none
      else do
        let inside := (c.behind ['\x7b'] rest).skipSpace
        let (entries, after) ← match inside.accept? ['\x7d'] with
          | some after => some ([], after)
          | none => pairs? fuel (depth + 1) [] inside
        return (.table (some ⟨c.offset, after.offset⟩) .inline entries, after)
    | _ => scalar? c

/-- The items of an array up to its closing bracket. A comma may follow the last one. -/
def items? : Nat → Nat → Cursor → Option (List Item × Cursor)
  | 0, _, _ => none
  | fuel + 1, depth, c =>
    let c := c.skipBetween
    match c.accept? [']'] with
    | some after => some ([], after)
    | none => do
      let (item, after) ← value? fuel depth c
      let after := after.skipBetween
      match after.accept? [','] with
      | some next =>
        let (items, after) ← items? fuel depth next
        return (item :: items, after)
      | none =>
        let after ← after.accept? [']']
        return ([item], after)

/-- The pairs of a table in braces up to its closing brace, added to those before. -/
def pairs? : Nat → Nat → Entries → Cursor → Option (Entries × Cursor)
  | 0, _, _, _ => none
  | fuel + 1, depth, entries, c => do
    let (way, key, after) ← c.path?
    let after ← after.accept? ['=']
    let (item, after) ← value? fuel depth after.skipSpace
    let entries ← entries.insert .inline way key item
    let after := after.skipSpace
    match after.accept? [','] with
    | some next => pairs? fuel depth entries next
    | none =>
      let after ← after.accept? ['\x7d']
      return (entries, after)

end

/-- A pair on a line of its own. -/
def pair? (document : Document) (c : Cursor) : Option (Document × Cursor) := do
  let (way, key, after) ← c.path?
  let after ← after.accept? ['=']
  let start := after.skipSpace
  let (item, after) ← value? (2 * start.rest.length + 2) 0 start
  let document ← document.insert way key item after.offset
  let after ← after.restOfLine?
  return (document, after)

/-- A header on a line of its own. -/
def header? (document : Document) (c : Cursor) : Option (Document × Cursor) := do
  match c.accept? ['[', '['] with
  | some inside =>
    let (way, key, after) ← inside.path?
    let after ← after.accept? [']', ']']
    let document ← document.openElement way key ⟨c.offset, after.offset⟩
    let after ← after.restOfLine?
    return (document, after)
  | none =>
    let inside ← c.accept? ['[']
    let (way, key, after) ← inside.path?
    let after ← after.accept? [']']
    let document ← document.openTable way key ⟨c.offset, after.offset⟩
    let after ← after.restOfLine?
    return (document, after)

/-- The rest of a document, line by line. -/
def lines? : Nat → Document → Cursor → Option Document
  | 0, _, _ => none
  | fuel + 1, document, c =>
    let c := c.skipSpace
    match c.rest with
    | [] => some document
    | '[' :: _ => do
      let (document, after) ← header? document c
      lines? fuel document after
    | x :: _ =>
      if x = '#' || x = '\n' || x = '\r' then do
        let after ← c.restOfLine?
        lines? fuel document after
      else do
        let (document, after) ← pair? document c
        lines? fuel document after

/-- The contents of a document. A mark of byte order may stand at its front. -/
def read? (text : Text) : Option Entries := do
  let start : Cursor := ⟨text, 0⟩
  let start := (start.accept? ['\uFEFF']).getD start
  let document ← lines? (text.length + 1) {} start
  document.finish

end ShaderBundle.Toml
