import ShaderBundle.Glsl.Type
import ShaderBundle.Number.Shortest

/-!
# Tokens of GLSL

## Main definitions

* `Token` is a token behind the preprocessor. Keywords and punctuation are *fixed*: they are known
  by their spelling.
* `Token.ofWord` tells keywords, type names and identifiers apart.
* `Token.show` names a token in the way diagnostics do.
-/

namespace ShaderBundle.Glsl

/-- A token. -/
inductive Token where
  | identifier (name : Text)
  | int (value : Nat) (signed : Bool)
  | float (value : Binary) (width : Nat)
  | bool (value : Bool)
  | type (ty : Ty)
  | fixed (spelling : String)
  deriving DecidableEq, Repr

/-- The punctuation, with the names that diagnostics use. Longer spellings come first, as the
longest one that fits is taken. -/
def punctuation : List (String × String) :=
  [("<<=", "LeftShiftAssign"), (">>=", "RightShiftAssign"),
    ("++", "Increment"), ("--", "Decrement"), ("<=", "LessEqual"), (">=", "GreaterEqual"),
    ("==", "Equal"), ("!=", "NotEqual"), ("&&", "LogicalAnd"), ("||", "LogicalOr"),
    ("^^", "LogicalXor"), ("+=", "AddAssign"), ("-=", "SubAssign"), ("*=", "MulAssign"),
    ("/=", "DivAssign"), ("%=", "ModAssign"), ("&=", "AndAssign"), ("|=", "OrAssign"),
    ("^=", "XorAssign"), ("<<", "LeftShift"), (">>", "RightShift"),
    ("(", "LeftParen"), (")", "RightParen"), ("\x7b", "LeftBrace"), ("\x7d", "RightBrace"),
    ("[", "LeftBracket"), ("]", "RightBracket"), ("<", "LeftAngle"), (">", "RightAngle"),
    (".", "Dot"), (",", "Comma"), (";", "Semicolon"), (":", "Colon"), ("=", "Assign"),
    ("!", "Bang"), ("-", "Dash"), ("~", "Tilde"), ("+", "Plus"), ("*", "Star"), ("/", "Slash"),
    ("%", "Percent"), ("|", "VerticalBar"), ("^", "Caret"), ("&", "Ampersand"),
    ("?", "Question")]

/-- The keywords, with the names that diagnostics use. -/
def keywords : List (String × String) :=
  [("layout", "Layout"), ("in", "In"), ("out", "Out"), ("inout", "InOut"),
    ("uniform", "Uniform"), ("buffer", "Buffer"), ("const", "Const"), ("shared", "Shared"),
    ("invariant", "Invariant"), ("restrict", "Restrict"),
    ("readonly", "MemoryQualifier(StorageAccess(LOAD))"),
    ("writeonly", "MemoryQualifier(StorageAccess(STORE))"),
    ("flat", "Interpolation(Flat)"), ("noperspective", "Interpolation(Linear)"),
    ("smooth", "Interpolation(Perspective)"), ("centroid", "Sampling(Centroid)"),
    ("sample", "Sampling(Sample)"), ("precision", "Precision"),
    ("highp", "PrecisionQualifier(High)"), ("mediump", "PrecisionQualifier(Medium)"),
    ("lowp", "PrecisionQualifier(Low)"), ("continue", "Continue"), ("break", "Break"),
    ("return", "Return"), ("discard", "Discard"), ("if", "If"), ("else", "Else"),
    ("switch", "Switch"), ("case", "Case"), ("default", "Default"), ("while", "While"),
    ("do", "Do"), ("for", "For"), ("void", "Void"), ("struct", "Struct")]

/-- The token that a word is. -/
def Token.ofWord (word : Text) : Token :=
  let spelling := String.ofList word
  if spelling = "true" then bool true
  else if spelling = "false" then bool false
  else if (keywords.lookup spelling).isSome then fixed spelling
  else match Ty.ofWord? word with
    | some ty => type ty
    | none => identifier word

/-- What diagnostics call a fixed token. -/
def fixedName (spelling : String) : String :=
  ((punctuation ++ keywords).lookup spelling).getD spelling

/-- What diagnostics call a token. -/
def Token.show : Token → Text
  | identifier name => "Identifier(\"".toList ++ name ++ "\")".toList
  | int value signed =>
    "IntConstant(Integer \x7b value: ".toList ++ decimal value ++ ", signed: ".toList ++
      (showBool signed).toList ++ ", width: 32 \x7d)".toList
  | float value width =>
    "FloatConstant(Float \x7b value: ".toList ++ value.withPoint binary32 ++ ", width: ".toList ++
      decimal width ++ " \x7d)".toList
  | bool value => "BoolConstant(".toList ++ (showBool value).toList ++ [')']
  | type ty => "TypeName(Type \x7b name: None, inner: ".toList ++ ty.show.toList ++ " \x7d)".toList
  | fixed spelling => (fixedName spelling).toList

end ShaderBundle.Glsl
