import ShaderBundle.Graphics.BackendKind
import ShaderBundle.Number.Shortest
import ShaderBundle.Settings.Duration
import ShaderBundle.Source.Disk
import ShaderBundle.Text.Lines
import ShaderBundle.Text.Quoted
import ShaderBundle.Toml.Document

/-!
# Settings

The settings of the shader registry are read from a TOML document. Every field has a usual value,
unknown keys do not matter, and the fields are checked once all of them are read.

Two readers are not made here and are taken as they come: the one that turns a text into a document,
and the one that turns words such as `250ms` into a duration. What is defined here is what is done
with their answers: which field takes which items, what a number of seconds is worth, and when
settings that were read make sense. Everything that reads is a function of the two.

## Main definitions

* `Settings` are the settings, `Settings.usual` those of an empty document.
* `FieldFault` is what is wrong with one field, `InvalidSettings` what is wrong with all of them.
* `SettingsError` is the cause of a failure.
* `Settings.Readers` are the two readers, `Settings.Readers.parse?` reads a text with them.

## Implementation notes

An interval may be given as a number of seconds. One that does not fit its word has no answer: the
outcome is `none`, which stands for an abort. The reader of durations may abort as well, and then so
does everything that asked it. The reader of documents takes or refuses every text; of why it
refuses one nothing is known.

A document has each key of a table once and no integer beyond 64 bits. Neither is asked for: the
fields are read in order, whatever they are, and a number of seconds is kept as it is.
-/

namespace ShaderBundle

/-- The settings of the registry. -/
structure Settings where
  /-- The version of the format. -/
  version : Nat
  /-- Where shaders are searched, in order. -/
  roots : List Text
  /-- The backend, if one is picked. -/
  backend : Option BackendKind
  /-- How often changes are looked for. -/
  interval : Duration
  /-- Whether pragmas for compilers are handed on. -/
  nativePragmas : Bool
  /-- Whether programs are validated after linking. -/
  validates : Bool
  deriving DecidableEq, Repr

/-- What is wrong with the value of a field. -/
inductive FieldFault where
  /-- The value has another type. -/
  | wrongType (found expected : Text)
  /-- The number does not fit. -/
  | wrongNumber (value : Int) (expected : Text)
  /-- No backend has the name. -/
  | unknownBackend (name : Text)
  /-- A backend is neither text nor a table. -/
  | notNamed
  /-- A table in braces does not hold one key. -/
  | notOneElement (isEmpty : Bool)
  /-- A table with a header does not hold one key. -/
  | notOneEntry (isEmpty : Bool)
  /-- The value behind a backend's name is not empty. -/
  | notEmpty (expected : Text)
  /-- The value behind a backend's name has no parts. -/
  | notTable (found : Text)
  /-- The text is no duration. -/
  | badDuration (text cause : Text)
  /-- The number of seconds is below zero or none. -/
  | negativeDuration
  deriving DecidableEq, Repr

/-- The fault in words. -/
def FieldFault.message : FieldFault → Text
  | wrongType found expected =>
    "invalid type: ".toList ++ found ++ ", expected ".toList ++ expected
  | wrongNumber value expected => "invalid value: integer `".toList ++ (toString value).toList ++
      "`, expected ".toList ++ expected
  | unknownBackend name =>
    "unknown variant `".toList ++ name ++ "`, expected `gl` or `naga`".toList
  | notNamed => "wanted string or table".toList
  | notOneElement true => "wanted exactly 1 element, found 0 elements".toList
  | notOneElement false => "wanted exactly 1 element, more than 1 element".toList
  | notOneEntry true => "expected table with exactly 1 entry, found empty table".toList
  | notOneEntry false => "expected table with exactly 1 entry, found more than 1 entries".toList
  | notEmpty expected => "expected empty ".toList ++ expected
  | notTable found => "expected table, found ".toList ++ found
  | badDuration text cause => "invalid duration '".toList ++ text ++ "': ".toList ++ cause
  | negativeDuration => "duration must be non-negative".toList

/-- What is wrong with settings that were read. -/
inductive InvalidSettings where
  | version (version : Nat)
  | noRoots
  | emptyRoot (root : Text)
  | noInterval
  deriving DecidableEq, Repr

/-- The fault in words. -/
def InvalidSettings.message : InvalidSettings → Text
  | version n => "unsupported config version ".toList ++ decimal n ++ "; expected 1".toList
  | noRoots => "config must list at least one shader root".toList
  | emptyRoot root => "shader root ".toList ++ Text.quote root ++ " may not be empty".toList
  | noInterval => "reload_interval must be greater than zero".toList

/-- Why there are no settings. -/
inductive SettingsError where
  /-- The file could not be read. -/
  | unreadable (path : Text) (cause : IoError)
  /-- The text is not TOML. -/
  | malformed
  /-- A field of a text has a fault at a place. -/
  | field (text : Text) (place : Toml.Span) (fault : FieldFault)
  /-- The settings do not make sense. -/
  | invalid (fault : InvalidSettings)
  deriving DecidableEq, Repr

namespace SettingsError

/-- The lines that show a place in a text: the line with its number, and marks below the place, as
far as it reaches on that line. Marks are counted in bytes and columns in characters. -/
def excerpt (text : Text) (place : Toml.Span) : Text :=
  let front := (Text.cut place.start text).1
  let line := Text.feeds front
  let column := (front.reverse.takeWhile (· ≠ '\n')).length
  let content := (text.pieces[line]?).getD []
  let marks := max 1 (min (place.stop - place.start) (Text.size content - column))
  let number := decimal (line + 1)
  let gutter := List.replicate (number.length + 1) ' ' ++ ['|']
  "TOML parse error at line ".toList ++ number ++ ", column ".toList ++ decimal (column + 1) ++
    '\n' :: gutter ++
    '\n' :: number ++ " | ".toList ++ content ++
    '\n' :: gutter ++ List.replicate (column + 1) ' ' ++ List.replicate marks '^' ++ ['\n']

/-- The words for a field's fault, with its place. -/
def fieldMessage (text : Text) (place : Toml.Span) (fault : FieldFault) : Text :=
  excerpt text place ++ fault.message ++ ['\n']

/-- The cause in words. -/
def message : SettingsError → Text
  | unreadable path cause =>
    "failed to read configuration ".toList ++ path ++ ": ".toList ++ cause.message
  | malformed => "failed to parse configuration".toList
  | field text place fault =>
    "failed to parse configuration: ".toList ++ fieldMessage text place fault
  | invalid fault => "invalid configuration: ".toList ++ fault.message

end SettingsError

namespace Settings

/-- What a field's reader says: a value, a fault with the place if it is not that of the field, or
an abort. -/
inductive Reading (α : Type) where
  | value (a : α)
  | fault (place : Option Toml.Span) (fault : FieldFault)
  | abort
  deriving DecidableEq, Repr

/-- What kind of value an item is, in words. -/
def kindOf : Toml.Item → Text
  | .scalar _ (.string text) => "string ".toList ++ Text.quote text
  | .scalar _ (.integer n) => "integer `".toList ++ (toString n).toList ++ ['`']
  | .scalar _ (.float number) => "floating point `".toList ++ number.withPoint binary64 ++ ['`']
  | .scalar _ (.boolean b) => "boolean `".toList ++ (if b then "true`" else "false`").toList
  | .scalar _ .datetime | .table _ _ _ => "map".toList
  | .array _ _ | .tables _ => "sequence".toList

/-- The fault of an item that has another type. -/
def unlike {α : Type} (item : Toml.Item) (expected : String) : Reading α :=
  .fault item.span? (.wrongType (kindOf item) expected.toList)

/-- A version. -/
def readVersion : Toml.Item → Reading Nat
  | .scalar span (.integer n) =>
    if 0 ≤ n && n < wordBound then .value n.toNat
    else .fault (some span) (.wrongNumber n "u32".toList)
  | item => unlike item "u32"

/-- A truth value. -/
def readFlag : Toml.Item → Reading Bool
  | .scalar _ (.boolean b) => .value b
  | item => unlike item "a boolean"

/-- The roots in a list. -/
def readRootItems : List Toml.Item → Reading (List Text)
  | [] => .value []
  | .scalar _ (.string root) :: rest =>
    match readRootItems rest with
    | .value roots => .value (root :: roots)
    | other => other
  | item :: _ => unlike item "path string"

/-- The roots. -/
def readRoots : Toml.Item → Reading (List Text)
  | .array _ items => readRootItems items
  | .tables ((span, _) :: _) => .fault (some span) (.wrongType "map".toList "path string".toList)
  | .tables [] => .value []
  | item => unlike item "a sequence"

/-- What stands behind a backend's name has to be empty. -/
def readNothing : Toml.Item → Option FieldFault
  | .array _ [] | .table _ _ [] | .tables [] => none
  | .array _ _ | .table _ _ _ => some (.notEmpty "table".toList)
  | .tables _ => some (.notEmpty "array".toList)
  | .scalar _ (.string _) => some (.notTable "string".toList)
  | .scalar _ (.integer _) => some (.notTable "integer".toList)
  | .scalar _ (.float _) => some (.notTable "float".toList)
  | .scalar _ (.boolean _) => some (.notTable "boolean".toList)
  | .scalar _ .datetime => some (.notTable "datetime".toList)

/-- The backend with the name that settings use. -/
def backendOf? (name : Text) : Option BackendKind :=
  [BackendKind.gl, BackendKind.headless].find? fun kind => kind.name.toList = name

/-- A backend: its name, or a table with the name as its only key. -/
def readBackend : Toml.Item → Reading (Option BackendKind)
  | .scalar span (.string name) =>
    match backendOf? name with
    | some kind => .value (some kind)
    | none => .fault (some span) (.unknownBackend name)
  | .table _ _ [(key, item)] =>
    match backendOf? key.name with
    | none => .fault (some key.span) (.unknownBackend key.name)
    | some kind =>
      match readNothing item with
      | none => .value (some kind)
      | some fault => .fault item.span? fault
  | .table span .inline entries => .fault span (.notOneElement entries.isEmpty)
  | .table span _ entries => .fault span (.notOneEntry entries.isEmpty)
  | item => .fault item.span? .notNamed

/-- The settings of an empty document. -/
def usual : Settings where
  version := 1
  roots := ["shaders".toList]
  backend := none
  interval := ⟨0, 500000000⟩
  nativePragmas := false
  validates := true

/-- The settings with a field that was read. -/
def Reading.store {α : Type} (set : α → Settings) : Reading α → Reading Settings
  | .value a => .value (set a)
  | .fault place cause => .fault place cause
  | .abort => .abort

/-- The readers that settings are read with. -/
structure Readers where
  /-- The entries of a document, if the text is one. -/
  document : Text → Option Toml.Entries
  /-- The duration that a text denotes, or in words why it denotes none. There is no outcome where
  the reader aborts. -/
  duration : Text → Option (Except Text Duration)

section Read

variable (readers : Readers)

/-- An interval: a text, or a number of seconds that is not negative. -/
def readInterval : Toml.Item → Reading Duration
  | .scalar span (.string text) =>
    match readers.duration text with
    | some (.ok duration) => .value duration
    | some (.error cause) => .fault (some span) (.badDuration text cause)
    | none => .abort
  | .scalar span (.integer n) =>
    if n < 0 then .fault (some span) .negativeDuration else .value ⟨n.toNat, 0⟩
  | .scalar span (.float (.nan _)) => .fault (some span) .negativeDuration
  | .scalar span (.float number) =>
    if number.isNegative then .fault (some span) .negativeDuration
    else match Duration.ofBinary? number with
      | some duration => .value duration
      | none => .abort
  | item => unlike item "a duration as number of seconds or human-readable string"

/-- The settings with the field of a key. -/
def readField (settings : Settings) (name : Text) (item : Toml.Item) : Reading Settings :=
  if name = "version".toList then
    (readVersion item).store fun version => { settings with version }
  else if name = "roots".toList then
    (readRoots item).store fun roots => { settings with roots }
  else if name = "backend".toList then
    (readBackend item).store fun backend => { settings with backend }
  else if name = "reload_interval".toList then
    (readInterval readers item).store fun interval => { settings with interval }
  else if name = "native_pragmas".toList then
    (readFlag item).store fun nativePragmas => { settings with nativePragmas }
  else if name = "validate_after_link".toList then
    (readFlag item).store fun validates => { settings with validates }
  else .value settings

/-- The settings with the fields of a document, in order. A fault without a place of its own is
reported at the key. -/
def readFields (settings : Settings) : Toml.Entries → Reading Settings
  | [] => .value settings
  | (key, item) :: rest =>
    match readField readers settings key.name item with
    | .value settings => readFields settings rest
    | .fault place fault => .fault (some (place.getD key.span)) fault
    | .abort => .abort

end Read

/-- What does not make sense in settings. -/
def fault? (settings : Settings) : Option InvalidSettings :=
  if settings.version ≠ 1 then some (.version settings.version)
  else if settings.roots.isEmpty then some .noRoots
  else match settings.roots.find? Text.isAllBlank with
    | some root => some (.emptyRoot root)
    | none => if settings.interval.isZero then some .noInterval else none

/-- The settings if they make sense. -/
def check (settings : Settings) : Except SettingsError Settings :=
  match settings.fault? with
  | some fault => .error (.invalid fault)
  | none => .ok settings

namespace Readers

variable (readers : Readers)

/-- The settings that a text gives, or no outcome if reading it aborts. -/
def parse? (text : Text) : Option (Except SettingsError Settings) :=
  match readers.document text with
  | none => some (.error .malformed)
  | some entries =>
    match readFields readers usual entries with
    | .value settings => some settings.check
    | .fault place fault => some (.error (.field text (place.getD ⟨0, 0⟩) fault))
    | .abort => none

/-- The settings in a file, or no outcome if reading it aborts. -/
def load? {m : Type → Type} [Monad m] (disk : Disk m) (path : Text) :
    m (Option (Except SettingsError Settings)) := do
  match ← disk.read path with
  | .error cause => return some (.error (.unreadable path cause))
  | .ok text => return readers.parse? text

end Readers

end Settings

end ShaderBundle
