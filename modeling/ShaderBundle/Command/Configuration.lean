import ShaderBundle.Command.Failure
import ShaderBundle.Settings.Reading

/-!
# Which settings apply

A settings file may be named by the caller; one that is named has to be there. Otherwise the user's
own file is read if there is one, and the usual settings apply if there is none.

## Main definitions

* `Environment` holds what the program takes from its environment.
* `Environment.settingsPath?` is the place of the user's settings file.
* `loadSettings?` gives the settings that apply.
-/

namespace ShaderBundle.Command

/-- What the program takes from its environment. -/
structure Environment where
  /-- The settings file that is named there. -/
  config : Option Text := none
  /-- The directory of the user's settings file, if it is another one than usual. -/
  configDirectory : Option Text := none
  /-- The directory below which programs keep their settings. -/
  configHome : Option Text := none
  /-- The user's home directory. -/
  home : Option Text := none
  deriving DecidableEq, Repr

namespace Environment

/-- The environment whose variables a function looks up. -/
def ofVariables {m : Type → Type} [Monad m] (lookUp : String → m (Option Text)) :
    m Environment := do
  return {
    config := ← lookUp "UNISHADE_CONFIG"
    configDirectory := ← lookUp "UNISHADE_CONFIG_DIR"
    configHome := ← lookUp "XDG_CONFIG_HOME"
    home := ← lookUp "HOME" }

/-- The directory below which programs keep their settings. A relative one does not count. -/
def settingsHome? (environment : Environment) : Option Text :=
  match environment.configHome.filter Path.isAbsolute with
  | some directory => some directory
  | none =>
    (environment.home.filter fun home => !home.isEmpty).map fun home =>
      Path.join home ".config".toList

/-- The place of the user's settings file. -/
def settingsPath? (environment : Environment) : Option Text :=
  let directory := match environment.configDirectory with
    | some directory => some directory
    | none => environment.settingsHome?.map fun home => Path.join home "unishade".toList
  directory.map fun directory => Path.join directory "config.toml".toList

end Environment

/-- The causes of a settings error, the error itself first. -/
def causesOf (error : SettingsError) : List Text :=
  match error with
  | .unreadable _ cause => [error.message, cause.message]
  | .field text place fault => [error.message, SettingsError.fieldMessage text place fault]
  | .malformed | .invalid _ => [error.message]

/-- The settings in a file, or no outcome if reading it aborts. -/
def settingsIn? {m : Type → Type} [Monad m] (disk : Disk m) (path : Text) :
    m (Option (Except Failure Settings)) := do
  match ← Settings.load? disk path with
  | none => return none
  | some (.ok settings) => return some (.ok settings)
  | some (.error error) =>
    return some (.error ⟨"failed to load config ".toList ++ path, causesOf error⟩)

/-- The settings that apply, or no outcome if reading them aborts. -/
def loadSettings? {m : Type → Type} [Monad m] (disk : Disk m) (environment : Environment)
    (named : Option Text) : m (Option (Except Failure Settings)) := do
  match named with
  | some path => settingsIn? disk path
  | none =>
    match environment.settingsPath? with
    | none => return some (.ok Settings.usual)
    | some path =>
      match ← disk.kind? path with
      | some .file => settingsIn? disk path
      | _ => return some (.ok Settings.usual)

end ShaderBundle.Command
