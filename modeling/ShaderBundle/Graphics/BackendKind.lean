import ShaderBundle.Text.Blank

/-!
# Kinds of backend

A user picks a backend by name. Each kind has two names, and case does not matter in them.

## Main definitions

* `BackendKind` lists the kinds; `BackendKind.usual` is the one that is used when nobody picks.
* `BackendKind.ofName?` reads a name, `BackendKind.refusal` is the text for a name it does not know.
-/

namespace ShaderBundle

/-- The backends that a user can pick. -/
inductive BackendKind where
  /-- OpenGL, through a context of the caller's. -/
  | gl
  /-- The GLSL front end alone, without a device. -/
  | headless
  deriving DecidableEq, Repr

namespace BackendKind

/-- The backend that is used when none is picked. -/
def usual : BackendKind := gl

/-- The name under which a kind is reported. -/
def name : BackendKind → String
  | gl => "gl"
  | headless => "naga"

/-- The name with the capitals of ASCII made small. -/
def lower (name : Text) : Text :=
  name.map Char.toLower

/-- The names of a kind, in small letters. -/
def names : BackendKind → List Text
  | gl => ["gl".toList, "opengl".toList]
  | headless => ["naga".toList, "headless".toList]

/-- The kind with a name. -/
def ofName? (name : Text) : Option BackendKind :=
  [gl, headless].find? fun kind => kind.names.contains (lower name)

/-- What is said about a name that no kind has. -/
def refusal (name : Text) : Text :=
  "unknown backend '".toList ++ lower name ++ "' (expected gl or naga)".toList

end BackendKind

end ShaderBundle
