import ShaderBundle.Text.Bytes

/-!
# UTF-8

Files and driver logs come as bytes. A file has to be well formed; in a log, each broken sequence is
shown as one replacement character.

## Main definitions

* `Utf8.items` decodes bytes into characters and marks for broken sequences. A broken sequence is
  the longest part that could have begun a character.
* `Utf8.decode?` refuses broken sequences, `Utf8.decodeLossy` replaces them.
* `Utf8.encode` writes a text as bytes.
-/

namespace ShaderBundle.Utf8

/-- A character begun: how many bytes are missing, the bits so far, and the bounds of the next
byte. Only the second byte has bounds of its own, which keep out overlong forms, surrogates and
numbers beyond Unicode. -/
structure Begun where
  /-- How many bytes are missing. -/
  missing : Nat
  /-- The bits of the bytes so far. -/
  bits : Nat
  /-- The least next byte. -/
  low : Nat
  /-- The greatest next byte. -/
  high : Nat
  deriving DecidableEq, Repr

/-- What the first byte of a sequence says. -/
inductive Lead where
  /-- The byte is a character. -/
  | whole (c : Char)
  /-- The byte begins a longer sequence. -/
  | begun (begun : Begun)
  /-- No character begins so. -/
  | broken
  deriving DecidableEq, Repr

/-- The meaning of a first byte. -/
def lead (b : Nat) : Lead :=
  if b < 0x80 then .whole (Char.ofNat b)
  else if b < 0xC2 then .broken
  else if b < 0xE0 then .begun ⟨1, b - 0xC0, 0x80, 0xBF⟩
  else if b = 0xE0 then .begun ⟨2, 0, 0xA0, 0xBF⟩
  else if b = 0xED then .begun ⟨2, 0xD, 0x80, 0x9F⟩
  else if b < 0xF0 then .begun ⟨2, b - 0xE0, 0x80, 0xBF⟩
  else if b = 0xF0 then .begun ⟨3, 0, 0x90, 0xBF⟩
  else if b < 0xF4 then .begun ⟨3, b - 0xF0, 0x80, 0xBF⟩
  else if b = 0xF4 then .begun ⟨3, 4, 0x80, 0x8F⟩
  else .broken

/-- The items that a first byte gives at once, and what it begins. -/
def start (b : UInt8) : List (Option Char) × Option Begun :=
  match lead b.toNat with
  | .whole c => ([some c], none)
  | .begun begun => ([], some begun)
  | .broken => ([none], none)

/-- The items of the bytes, behind a sequence that may be begun. -/
def itemsFrom : Option Begun → List UInt8 → List (Option Char)
  | none, [] => []
  | some _, [] => [none]
  | none, b :: rest => (start b).1 ++ itemsFrom (start b).2 rest
  | some begun, b :: rest =>
    if begun.low ≤ b.toNat ∧ b.toNat ≤ begun.high then
      let bits := 64 * begun.bits + (b.toNat - 0x80)
      if begun.missing ≤ 1 then some (Char.ofNat bits) :: itemsFrom none rest
      else itemsFrom (some ⟨begun.missing - 1, bits, 0x80, 0xBF⟩) rest
    else none :: (start b).1 ++ itemsFrom (start b).2 rest

/-- The characters of the bytes, with `none` for each broken sequence. -/
def items (bytes : List UInt8) : List (Option Char) :=
  itemsFrom none bytes

/-- Every item, if none is missing. -/
def complete? : List (Option Char) → Option Text
  | [] => some []
  | none :: _ => none
  | some c :: rest => (complete? rest).map (c :: ·)

/-- The text of well-formed bytes. -/
def decode? (bytes : List UInt8) : Option Text :=
  complete? (items bytes)

/-- The text of any bytes. -/
def decodeLossy (bytes : List UInt8) : Text :=
  (items bytes).map fun item => item.getD '\uFFFD'

/-- The bytes of a character. -/
def encodeChar (c : Char) : List UInt8 :=
  let n := c.toNat
  let next (unit : Nat) : Nat := 0x80 + n / unit % 64
  let bytes : List Nat := match width c with
    | 1 => [n]
    | 2 => [0xC0 + n / 0x40, next 1]
    | 3 => [0xE0 + n / 0x1000, next 0x40, next 1]
    | _ => [0xF0 + n / 0x40000, next 0x1000, next 0x40, next 1]
  bytes.map UInt8.ofNat

/-- The bytes of a text. -/
def encode (s : Text) : List UInt8 :=
  s.flatMap encodeChar

end ShaderBundle.Utf8
