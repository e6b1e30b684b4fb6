import ShaderBundle.Text.Unprintable

/-!
# Quoted text

Names and paths that may hold anything are shown between double quotes, with escapes for what would
break the quotes or not show.

## Main definitions

* `escape` is the quoted form of one character.
* `quote` quotes a text, `quoteAll` a list of texts.
-/

namespace ShaderBundle.Text

/-- A character between double quotes. -/
def escape (c : Char) : Text :=
  if c = '\x00' then ['\\', '0']
  else if c = '\t' then ['\\', 't']
  else if c = '\n' then ['\\', 'n']
  else if c = '\r' then ['\\', 'r']
  else if c = '"' then ['\\', '"']
  else if c = '\\' then ['\\', '\\']
  else if isUnprintable c then ['\\', 'u', '\x7b'] ++ Nat.toDigits 16 c.toNat ++ ['\x7d']
  else [c]

/-- The text between double quotes. -/
def quote (s : Text) : Text :=
  '"' :: s.flatMap escape ++ ['"']

/-- The quoted texts as a list in brackets. -/
def quoteAll (ss : List Text) : Text :=
  '[' :: List.intercalate [',', ' '] (ss.map quote) ++ [']']

end ShaderBundle.Text
