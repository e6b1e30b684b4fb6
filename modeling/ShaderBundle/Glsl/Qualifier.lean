import ShaderBundle.Glsl.Grammar

/-!
# Qualifiers

What may stand in front of a declaration. Whatever makes use of a qualifier takes it away; one that
is left over at the end is a fault.

## Main definitions

* `Qualifiers` is what was read in front of a declaration.
* `readQualifiers` reads them.
* `Qualifiers.takeWhole` and `Qualifiers.takeFlag` take a layout qualifier away.
* `noteLeftOver` notes what nobody took.
-/

namespace ShaderBundle.Glsl

/-- The storage that a declaration asks for. -/
inductive StorageClass where
  | automatic
  | const
  | input
  | output
  | uniform
  | shared
  | buffer
  deriving DecidableEq, Repr

/-- What a layout qualifier says. -/
inductive LayoutValue where
  | flag
  | whole (n : Nat)
  | packing
  | format
  deriving DecidableEq, Repr

/-- A layout qualifier. -/
structure LayoutEntry where
  /-- The name. Packings share one, and so do formats. -/
  key : Text
  /-- What it says. -/
  value : LayoutValue
  /-- The line it stands on. -/
  line : Nat
  deriving DecidableEq, Repr

/-- What was read in front of a declaration. -/
structure Qualifiers where
  /-- The line of `invariant`. -/
  invariant? : Option Nat := none
  /-- The interpolation and its line. -/
  interpolation? : Option (Interpolation × Nat) := none
  /-- The line of `centroid` or `sample`. -/
  sampling? : Option Nat := none
  /-- Whether there was a precision. -/
  precise : Bool := false
  /-- The storage. -/
  storage : StorageClass := .automatic
  /-- The line of the storage. -/
  storageLine : Nat := 1
  /-- Whether memory may be read only. -/
  readonly : Bool := false
  /-- The layout qualifiers. -/
  layouts : List LayoutEntry := []
  deriving DecidableEq, Repr

/-- The words for formats of images. -/
def imageFormats : List String :=
  ["rgba32f", "rgba16f", "rg32f", "rg16f", "r11f_g11f_b10f", "r32f", "r16f", "rgba16", "rgb10_a2ui",
    "rgb10_a2", "rgba8", "rg16", "rg8", "r16", "r8", "rgba16_snorm", "rgba8_snorm", "rg16_snorm",
    "rg8_snorm", "r16_snorm", "r8_snorm", "rgba32i", "rgba16i", "rgba8i", "rg32i", "rg16i", "rg8i",
    "r32i", "r16i", "r8i", "rgba32ui", "rgba16ui", "rgba8ui", "rg32ui", "rg16ui", "rg8ui", "r32ui",
    "r16ui", "r8ui"]

/-- The storage that a word asks for. -/
def StorageClass.ofWord? : String → Option StorageClass
  | "const" => some const
  | "in" => some input
  | "out" => some output
  | "uniform" => some uniform
  | "shared" => some shared
  | "buffer" => some buffer
  | _ => none

/-- The interpolation that a word asks for. -/
def Interpolation.ofWord? : String → Option Interpolation
  | "flat" => some flat
  | "noperspective" => some linear
  | "smooth" => some perspective
  | _ => none

/-- The words that are qualifiers. -/
def qualifierWords : List String :=
  ["invariant", "flat", "noperspective", "smooth", "centroid", "sample", "highp", "mediump", "lowp",
    "const", "in", "out", "uniform", "shared", "buffer", "restrict", "readonly", "writeonly",
    "layout"]

/-- Whether a qualifier begins here. -/
def seesQualifier : Reader Bool := do
  match ← next? with
  | some (.fixed spelling) => return qualifierWords.contains spelling
  | _ => return false

/-- The qualifiers with a layout qualifier in place of one with the same name. -/
def Qualifiers.addLayout (q : Qualifiers) (entry : LayoutEntry) : Qualifiers :=
  { q with layouts := (q.layouts.filter fun other => other.key ≠ entry.key) ++ [entry] }

/-- The layout qualifiers with this name and the qualifiers without it. -/
def Qualifiers.takeLayout (q : Qualifiers) (key : Text) : Option LayoutEntry × Qualifiers :=
  (q.layouts.find? fun entry => entry.key == key,
    { q with layouts := q.layouts.filter fun entry => entry.key ≠ key })

/-- Takes a layout qualifier away that says a number. -/
def Qualifiers.takeWhole (q : Qualifiers) (key : String) : Reader (Option Nat × Qualifiers) := do
  match q.takeLayout key.toList with
  | (none, q) => return (none, q)
  | (some entry, q) =>
    match entry.value with
    | .whole n => return (some n, q)
    | _ =>
      noteMisuse entry.line "Qualifier expects a uint value"
      return (some 0, q)

/-- Takes a layout qualifier away that says nothing but itself. -/
def Qualifiers.takeFlag (q : Qualifiers) (key : String) : Reader (Bool × Qualifiers) := do
  match q.takeLayout key.toList with
  | (none, q) => return (false, q)
  | (some entry, q) =>
    unless entry.value = .flag do noteMisuse entry.line "Qualifier doesn't expect a value"
    return (true, q)

/-- Notes the qualifiers that nobody took. -/
def noteLeftOver (q : Qualifiers) : Reader Unit := do
  if let some line := q.invariant? then
    noteMisuse line "Invariant qualifier can only be used in in/out variables"
  if let some (_, line) := q.interpolation? then
    noteMisuse line "Interpolation qualifiers can only be used in in/out variables"
  if let some line := q.sampling? then
    noteMisuse line "Sampling qualifiers can only be used in in/out variables"
  for entry in q.layouts do
    noteMisuse entry.line "Unexpected qualifier"

/-! ### Reading -/

/-- Reads what a layout qualifier says, from behind its name. -/
def readLayoutValue (fuel : Nat) (name : Text) (line : Nat) : Reader LayoutEntry := do
  let spelling := String.ofList name
  if spelling = "std140" || spelling = "std430" then
    return ⟨"packing".toList, .packing, line⟩
  else if imageFormats.contains spelling then return ⟨"format".toList, .format, line⟩
  else if ← takes "=" then
    let (n, _) ← readCount fuel
    return ⟨name, .whole n, line⟩
  else return ⟨name, .flag, line⟩

/-- Reads layout qualifiers up to the closing parenthesis. -/
def readLayouts : Nat → Qualifiers → Reader Qualifiers
  | 0, _ => exhausted
  | fuel + 1, q => do
    let next ← match ← bump with
      | (.identifier name, line) => pure (q.addLayout (← readLayoutValue fuel name line))
      | (t, line) => do
        note line (.unexpected t ["identifier"])
        pure q
    if ← takes "," then readLayouts fuel next
    else
      expect ")"
      return next

/-- Notes a second qualifier of a kind. -/
def noteSecond (line : Nat) (second : Bool) (kind : String) : Reader Unit := do
  if second then
    noteMisuse line ("Cannot use more than one " ++ kind ++ " qualifier per declaration")

/-- Takes in a qualifier that is a word alone. -/
def Qualifiers.addWord (q : Qualifiers) (word : String) (line : Nat) : Reader Qualifiers := do
  match StorageClass.ofWord? word, Interpolation.ofWord? word with
  | some storage, _ =>
    noteSecond line (q.storage ≠ .automatic) "storage"
    return { q with storage, storageLine := line }
  | none, some interpolation =>
    noteSecond line q.interpolation?.isSome "interpolation"
    return { q with interpolation? := some (interpolation, line) }
  | none, none =>
    match word with
    | "invariant" =>
      noteSecond line q.invariant?.isSome "invariant"
      return { q with invariant? := some line }
    | "centroid" | "sample" =>
      noteSecond line q.sampling?.isSome "sampling"
      return { q with sampling? := some line }
    | "highp" | "mediump" | "lowp" =>
      noteSecond line q.precise "precision"
      return { q with precise := true }
    | "readonly" => return { q with readonly := true }
    | _ => return q

/-- Reads the qualifiers in front of a declaration. -/
def readQualifiersFrom : Nat → Qualifiers → Reader Qualifiers
  | 0, _ => exhausted
  | fuel + 1, q => do
    if ← seesQualifier then
      match ← bump with
      | (.fixed "layout", _) =>
        expect "("
        readQualifiersFrom fuel (← readLayouts fuel q)
      | (.fixed word, line) => readQualifiersFrom fuel (← q.addWord word line)
      | _ => return q
    else return q

/-- Reads the qualifiers in front of a declaration. -/
def readQualifiers (fuel : Nat) : Reader Qualifiers :=
  readQualifiersFrom fuel {}

end ShaderBundle.Glsl
