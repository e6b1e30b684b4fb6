import ShaderBundle.Glsl.Fault
import ShaderBundle.Glsl.Macro

/-!
# Preprocessed shaders

What the reader of a shader sees: tokens, and between them what directives have to say. A directive
speaks when the reader gets to it, so its faults come in order with all others.

## Main definitions

* `Item` is a token or the word of a directive.
* `preprocess` carries out the directives of a shader.

## Implementation notes

Lines between directives are expanded as one run, so the arguments of a macro may spread over lines.
-/

namespace ShaderBundle.Glsl

/-- What the reader of a shader sees. -/
inductive Item where
  | token (found : Token)
  | version (number : Nat)
  | fault (cause : Cause)
  deriving DecidableEq, Repr

/-- An open conditional. -/
structure Conditional where
  /-- Whether the lines around it count. -/
  outer : Bool
  /-- Whether the lines of the present branch count. -/
  live : Bool
  /-- Whether a branch was chosen. -/
  chosen : Bool
  deriving DecidableEq, Repr

/-- How far preprocessing has come. -/
structure Progress where
  /-- The defined macros. -/
  macros : List Macro := []
  /-- The open conditionals, the innermost first. -/
  opened : List Conditional := []
  /-- Whether there was a directive. -/
  directed : Bool := false
  /-- The lines since the last directive. -/
  pending : Run := []
  /-- What was put out. -/
  items : List (Placed Item) := []
  deriving DecidableEq, Repr

/-- The versions that the front end reads. -/
def knownVersions : List Nat := [440, 450, 460]

/-- What is put out for a lexeme behind the expansion of macros. -/
def Item.ofLexeme : Lexeme → Item
  | .word name => .token (.ofWord name)
  | .token found => .token found
  | .hash => .fault (.directive "UnexpectedHash")
  | .stray | .lineEnd => .fault (.directive "UnexpectedCharacter")

/-- The faults of the words of a version directive, and its number. -/
def versionItems : List Lexeme → List Item
  | [] => [.fault (.directive "UnexpectedNewLine")]
  | number :: rest =>
    let first := match number with
      | .token (.int value _) =>
        if knownVersions.contains value then .version value
        else .fault (.invalidVersion value)
      | _ => .fault (.directive "UnexpectedToken")
    let others := match rest with
      | [] => []
      | .word ['c', 'o', 'r', 'e'] :: _ => []
      | .word profile :: _ => [.fault (.invalidProfile profile)]
      | _ => [.fault (.directive "UnexpectedToken")]
    let final := if rest.length > 1 then [.fault (.directive "UnexpectedToken")] else []
    first :: others ++ final

namespace Progress

/-- Whether the lines here count. -/
def live (p : Progress) : Bool :=
  match p.opened with
  | [] => true
  | conditional :: _ => conditional.live

/-- Puts items out for a line. -/
def put (p : Progress) (line : Nat) (items : List Item) : Progress :=
  { p with items := p.items ++ items.map fun item => ⟨item, line⟩ }

/-- Puts a fault of a directive out. -/
def complain (p : Progress) (line : Nat) (reason : String) : Progress :=
  p.put line [.fault (.directive reason)]

/-- Expands the lines since the last directive and puts them out. -/
def flush (p : Progress) : Progress :=
  { p with
    pending := []
    items := p.items ++ (expand p.macros p.pending).map fun t => ⟨.ofLexeme t.value, t.line⟩ }

/-- Opens a conditional whose first branch has a condition. -/
def openBranch (p : Progress) (condition : Bool) : Progress :=
  { p with opened := ⟨p.live, p.live && condition, condition⟩ :: p.opened }

/-- Begins another branch of the innermost conditional. -/
def nextBranch (p : Progress) (line : Nat) (word : String) (condition : Bool) : Progress :=
  match p.opened with
  | [] => p.complain line (word ++ "OutsideOfBlock")
  | conditional :: others =>
    { p with opened :=
        { conditional with
          live := conditional.outer && !conditional.chosen && condition
          chosen := conditional.chosen || condition } :: others }

/-- Carries out a directive that only counts where lines count. -/
def perform (p : Progress) (line : Nat) (word : String) (rest : Run) : Progress :=
  let lexemes := rest.map Placed.value
  match word with
  | "define" =>
    match Macro.ofLine? lexemes with
    | some definition =>
      { p with macros := definition :: withoutMacro p.macros definition.name }
    | none => p.complain line "UnexpectedNewLine"
  | "undef" =>
    match lexemes with
    | .word name :: _ => { p with macros := withoutMacro p.macros name }
    | _ => p.complain line "UnexpectedNewLine"
  | "version" =>
    let first := if p.directed then
      [Item.fault (.misuse "#version must occur first in shader".toList)] else []
    p.put line (first ++ versionItems lexemes)
  | "error" => p.complain line "ErrorDirective"
  | "extension" | "pragma" | "line" => p
  | _ => p.complain line "UnknownDirective"

/-- Whether the condition of a directive holds. One that cannot be read does not. -/
def condition (p : Progress) (word : String) (rest : Run) : Bool :=
  let known := match rest with
    | ⟨.word name, _⟩ :: _ => p.macros.any fun definition => definition.name == name
    | _ => false
  match word with
  | "ifdef" => known
  | "ifndef" => !known
  | _ => (holds? p.macros rest).getD false

/-- Carries out a directive. -/
def direct (p : Progress) (line : Nat) (rest : Run) : Progress :=
  match rest with
  | [] => p
  | ⟨.word name, _⟩ :: more =>
    let word := String.ofList name
    let next := match word with
      | "if" | "ifdef" | "ifndef" => p.openBranch (p.condition word more)
      | "elif" => p.nextBranch line "Elif" (p.condition word more)
      | "else" => p.nextBranch line "Else" true
      | "endif" =>
        match p.opened with
        | [] => p.complain line "EndifOutsideOfBlock"
        | _ :: others => { p with opened := others }
      | _ => if p.live then p.perform line word more else p
    { next with directed := true }
  | _ => if p.live then p.complain line "UnknownDirective" else p

/-- Takes one line in. -/
def takeLine (p : Progress) (lexemes : Run) : Progress :=
  match lexemes with
  | ⟨.hash, line⟩ :: rest => p.flush.direct line rest
  | _ => if p.live then { p with pending := p.pending ++ lexemes } else p

end Progress

/-- The lexemes of each line. -/
def splitLines : Run → List Run
  | [] => [[]]
  | t :: rest =>
    if t.value = .lineEnd then [] :: splitLines rest
    else match splitLines rest with
      | [] => [[t]]
      | first :: others => (t :: first) :: others

/-- The items of a shader. -/
def preprocess (s : Text) : List (Placed Item) :=
  ((splitLines (scan s)).foldl Progress.takeLine {}).flush.items

end ShaderBundle.Glsl
