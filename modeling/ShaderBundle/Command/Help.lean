import ShaderBundle.Command.Request

/-!
# Help

What the program says about itself when it is asked to.

## Main definitions

* `helpText` is the help on the program or on one of its verbs.
* `versionText` names the program and its version.
-/

namespace ShaderBundle.Command

/-- What a verb does, in one line. -/
def Verb.purpose : Verb → Text
  | check => "Split each file and report problems; `--compile` also compiles and links".toList
  | split => "Print the derived per-stage sources of a unified file".toList
  | watch => "Load shaders by name and rebuild them whenever their files change".toList

/-- What a parameter means. -/
def Parameter.purpose : Parameter → Text
  | config => "Registry configuration file (defaults to the user config directory)".toList
  | compile => "Compile and link with the headless backend after splitting".toList
  | json => "Emit a JSON report on stdout instead of text".toList
  | stage => "Only print this stage (`vertex`, `fragment`, `geometry`, ...)".toList
  | root => "Extra search roots, tried before the configured ones".toList
  | interval => "Poll interval, overriding `reload_interval` (e.g. `250ms`, `2s`)".toList
  | polls => "Stop after this many polls instead of running until interrupted".toList
  | files => "Unified shader files to check".toList
  | file => "The unified shader file to split".toList
  | names => "Logical shader names, resolved against the configured roots".toList
  | help => "Print help".toList
  | version => "Print version".toList

/-- A row of a table in a help text, with the first column filled up to a width. -/
def helpRow (width : Nat) (first second : Text) : Text :=
  "  ".toList ++ first ++ List.replicate (width + 2 - first.length) ' ' ++ second ++ ['\n']

/-- A table in a help text under its title. -/
def helpTable (title : String) (rows : List (Text × Text)) : Text :=
  let width := rows.foldl (fun width row => max width row.1.length) 0
  '\n' :: title.toList ++ ":\n".toList ++ rows.flatMap fun row => helpRow width row.1 row.2

/-- How the program is called, with a verb or without. -/
def usageText (verb : Option Verb) : Text :=
  "\nUsage: unishade ".toList ++
    (match verb with
      | none => "[OPTIONS] <COMMAND>".toList
      | some verb => verb.name.toList ++ " [OPTIONS]".toList ++
          (match operandOf? (some verb) with
            | some parameter => ' ' :: parameter.label
            | none => [])) ++
    ['\n']

/-- The help on the program or on one of its verbs. -/
def helpText (verb : Option Verb) : Text :=
  let subject := match verb with
    | none => purpose
    | some verb => verb.purpose
  let operands := match verb with
    | none => helpTable "Commands" (Verb.all.map fun verb => (verb.name.toList, verb.purpose))
    | some verb => match operandOf? (some verb) with
      | some parameter => helpTable "Arguments" [(parameter.label, parameter.purpose)]
      | none => []
  subject ++ ['\n'] ++ usageText verb ++ operands ++
    helpTable "Options" ((optionsOf verb).map fun parameter => (parameter.label, parameter.purpose))

/-- The program with its version. -/
def versionText : Text :=
  "unishade 0.1.0\n".toList

end ShaderBundle.Command
