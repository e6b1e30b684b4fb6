import ShaderBundle.Number.Binary
import ShaderBundle.Text.Blank

/-!
# TOML documents

A document is a table of items, and every item knows where in the text it stands. Tables come about
in four ways, and how a table came about decides who may add to it.

## Main definitions

* `Toml.Item` is an item with its place; `Toml.Entries` is the contents of a table in order.
* `Toml.Form` says how a table came about.
* `Toml.Document` is a document under construction: the table that the last header opened is kept
  apart until it is complete.
* `Document.openTable`, `Document.openElement`, `Document.insert` and `Document.finish` build it.

## Implementation notes

A table that a header names may be opened once. A header may pass through tables of any form but
inline ones; a dotted key may pass only through tables that a dotted key or the way of a header
made. The last element stands for an array of tables on such a way.
-/

namespace ShaderBundle.Toml

/-- A place in a text, in bytes. -/
structure Span where
  /-- Where it begins. -/
  start : Nat
  /-- Where it ends. -/
  stop : Nat
  deriving DecidableEq, Repr

/-- A key with its place. -/
structure Key where
  /-- The key without quotes. -/
  name : Text
  /-- Where it stands, with its quotes. -/
  span : Span
  deriving DecidableEq, Repr

/-- A value that has no parts. -/
inductive Scalar where
  | string (text : Text)
  | integer (value : Int)
  | float (value : Binary)
  | boolean (value : Bool)
  | datetime
  deriving DecidableEq, Repr

/-- How a table came about. -/
inductive Form where
  /-- A header opened it. -/
  | headed
  /-- A header passed through it. -/
  | passed
  /-- A dotted key passed through it. -/
  | dotted
  /-- It is written in braces. -/
  | inline
  deriving DecidableEq, Repr

/-- An item of a document. Tables that were only passed through have no place. -/
inductive Item where
  | scalar (span : Span) (value : Scalar)
  | array (span : Span) (items : List Item)
  | table (span : Option Span) (form : Form) (entries : List (Key × Item))
  | tables (elements : List (Span × List (Key × Item)))

/-- The contents of a table, in order. -/
abbrev Entries := List (Key × Item)

namespace Entries

/-- The item under a name. -/
def get? (name : Text) : Entries → Option Item
  | [] => none
  | (key, item) :: rest => if key.name = name then some item else get? name rest

/-- The entries with another item under a name, in its old place. -/
def set (name : Text) (item : Item) : Entries → Entries
  | [] => []
  | (key, old) :: rest =>
    if key.name = name then (key, item) :: rest else (key, old) :: set name item rest

/-- The entries without those under a name. -/
def erase (name : Text) (entries : Entries) : Entries :=
  entries.filter fun entry => entry.1.name ≠ name

end Entries

/-- Whether a way may lead through a table. The way is that of a dotted key or of a header. -/
def Form.admits (byDots : Bool) : Form → Bool
  | .inline => false
  | .headed => !byDots
  | .passed | .dotted => true

/-- Changes the table at the end of a way, with tables made where none are. There is none if the way
leads through something else, or if the change refuses. -/
def Entries.alter {α : Type} (byDots : Bool) (change : Form → Entries → Option (α × Entries)) :
    List Key → Form → Entries → Option (α × Entries)
  | [], form, entries => change form entries
  | key :: way, _, entries =>
    match Entries.get? key.name entries with
    | none => do
      let form : Form := if byDots then .dotted else .passed
      let (a, inner) ← alter byDots change way form []
      return (a, entries ++ [(key, .table none form inner)])
    | some (.table span form inner) => do
      if !form.admits byDots then none
      let (a, inner) ← alter byDots change way form inner
      return (a, Entries.set key.name (.table span form inner) entries)
    | some (.tables elements) =>
      match elements.getLast? with
      | none => none
      | some (span, inner) => do
        let (a, inner) ← alter byDots change way .headed inner
        return (a, Entries.set key.name (.tables (elements.dropLast ++ [(span, inner)])) entries)
    | some _ => none

/-- Adds an item under the last of some keys, which the others lead to. A key is given once. -/
def Entries.insert (form : Form) (entries : Entries) (way : List Key) (key : Key) (item : Item) :
    Option Entries := do
  let add (form : Form) (inner : Entries) : Option (Unit × Entries) :=
    if (form == .dotted) == way.isEmpty then none
    else if (Entries.get? key.name inner).isSome then none
    else some ((), inner ++ [(key, item)])
  let (_, entries) ← alter true add way form entries
  return entries

/-- A document under construction. -/
structure Document where
  /-- The complete tables. -/
  root : Entries := []
  /-- The keys of the header that opened the last table; none before the first header. -/
  way : List Key := []
  /-- The key that the last header ends with. -/
  key : Option Key := none
  /-- Whether that header opened an element of an array. -/
  isElement : Bool := false
  /-- The place of the last table. -/
  span : Span := ⟨0, 0⟩
  /-- The contents of the last table. -/
  open_ : Entries := []

namespace Document

/-- The document with the last table in its place. -/
def close (document : Document) : Option Document :=
  match document.key with
  | none => some { document with root := document.open_, open_ := [] }
  | some key =>
    let place (_ : Form) (entries : Entries) : Option (Unit × Entries) :=
      if document.isElement then
        match Entries.get? key.name entries with
        | some (.tables elements) => some ((), Entries.set key.name
            (.tables (elements ++ [(document.span, document.open_)])) entries)
        | none => some ((), entries ++ [(key, .tables [(document.span, document.open_)])])
        | some _ => none
      else
        let table := Item.table (some document.span) .headed document.open_
        match Entries.get? key.name entries with
        | none => some ((), entries ++ [(key, table)])
        | some (.table _ .passed _) | some (.table _ .dotted _) =>
          some ((), Entries.set key.name table entries)
        | some _ => none
    match Entries.alter false place document.way .headed document.root with
    | none => none
    | some (_, root) => some { document with root, open_ := [] }

/-- Opens the table of a header. A table that was only passed through so far keeps its contents. -/
def openTable (document : Document) (way : List Key) (key : Key) (span : Span) :
    Option Document := do
  let document ← document.close
  let take (_ : Form) (entries : Entries) : Option (Entries × Entries) :=
    match Entries.get? key.name entries with
    | none => some ([], entries)
    | some (.table _ .passed inner) => some (inner, Entries.erase key.name entries)
    | some _ => none
  let (open_, root) ← Entries.alter false take way .headed document.root
  return { root, way, key := some key, isElement := false, span, open_ }

/-- Opens a new element of an array of tables. -/
def openElement (document : Document) (way : List Key) (key : Key) (span : Span) :
    Option Document := do
  let document ← document.close
  let check (_ : Form) (entries : Entries) : Option (Unit × Entries) :=
    match Entries.get? key.name entries with
    | none => some ((), entries ++ [(key, .tables [])])
    | some (.tables _) => some ((), entries)
    | some _ => none
  let (_, root) ← Entries.alter false check way .headed document.root
  return { root, way, key := some key, isElement := true, span, open_ := [] }

/-- Adds a pair to the last table, which then reaches to the end of the pair. -/
def insert (document : Document) (way : List Key) (key : Key) (item : Item) (stop : Nat) :
    Option Document := do
  let open_ ← Entries.insert .headed document.open_ way key item
  return { document with open_, span := { document.span with stop } }

/-- The contents of the complete document. -/
def finish (document : Document) : Option Entries := do
  let document ← document.close
  return document.root

end Document

/-- Where an item stands, if it was not only passed through. -/
def Item.span? : Item → Option Span
  | scalar span _ => some span
  | array span _ => some span
  | table span _ _ => span
  | tables elements =>
    match elements.head?, elements.getLast? with
    | some (first, _), some (last, _) => some ⟨first.start, last.stop⟩
    | _, _ => none

end ShaderBundle.Toml
