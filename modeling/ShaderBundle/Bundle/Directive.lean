import ShaderBundle.Bundle.Stage

/-!
# Directives

A directive is a line whose first character that is not blank is a number sign. Two directives
concern the library: `#pragma`, which opens a stage, and `#version`.

All functions here read one line of a masked text.
-/

namespace ShaderBundle.Directive

/-- What follows the directive's name, when the line is a directive of that name. -/
def after? (name : Text) (line : Text) : Option Text :=
  match line.trimStart with
  | '#' :: rest =>
    let found := Text.trimStart rest
    if name.isPrefixOf found then some (found.drop name.length) else none
  | _ => none

/-- The argument of a pragma. The name has to end there: `#pragmatic` is no pragma. -/
def pragma? (line : Text) : Option Text :=
  match after? ['p', 'r', 'a', 'g', 'm', 'a'] line with
  | some [] => some []
  | some (c :: rest) => if isBlank c then some (Text.trim (c :: rest)) else none
  | none => none

/-- Whether the line is a version directive: the name and then a blank. -/
def isVersion (line : Text) : Bool :=
  match after? ['v', 'e', 'r', 's', 'i', 'o', 'n'] line with
  | some (c :: _) => isBlank c
  | _ => false

/-- The word at the front of a pragma's argument. -/
def leadingWord (argument : Text) : Text :=
  argument.takeWhile isWordChar

/-- The pragmas that a GLSL compiler knows itself. -/
def compilerPragmas : List Text :=
  [['o', 'p', 't', 'i', 'm', 'i', 'z', 'e'], ['d', 'e', 'b', 'u', 'g'], ['S', 'T', 'D', 'G', 'L']]

/-- Whether the argument is one of a pragma meant for the GLSL compiler. -/
def isForCompiler (argument : Text) : Bool :=
  compilerPragmas.contains (leadingWord argument)

end ShaderBundle.Directive
