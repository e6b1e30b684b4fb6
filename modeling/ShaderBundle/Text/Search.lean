import ShaderBundle.Text.Blank

/-!
# Finding parts of a text
-/

namespace ShaderBundle.Text

/-- Whether `part` occurs in the text. -/
def hasPart (part : Text) : Text → Bool
  | [] => part.isEmpty
  | c :: rest => part.isPrefixOf (c :: rest) || hasPart part rest

/-- The rest of the text behind `front`, if the text begins with it. -/
def after? (front : Text) (s : Text) : Option Text :=
  if front.isPrefixOf s then some (s.drop front.length) else none

end ShaderBundle.Text
