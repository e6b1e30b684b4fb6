import ShaderBundle.Settings.DurationText
import ShaderBundle.Settings.Settings
import ShaderBundle.Toml.Reader

/-!
# Reading settings

Settings as the programs of this library read them: with the reader of TOML and the reader of
durations that come with it. Neither of these aborts.

## Main definitions

* `Settings.shipped` are the two readers.
* `Settings.parse?` reads a text, `Settings.load?` a file.
-/

namespace ShaderBundle.Settings

/-- The readers that come with the library. -/
def shipped : Readers where
  document := Toml.read?
  duration text := some ((Duration.parse text).mapError DurationError.message)

/-- The settings that a text gives, or no outcome if reading it aborts. -/
def parse? (text : Text) : Option (Except SettingsError Settings) :=
  shipped.parse? text

/-- The settings in a file, or no outcome if reading it aborts. -/
def load? {m : Type → Type} [Monad m] (disk : Disk m) (path : Text) :
    m (Option (Except SettingsError Settings)) :=
  shipped.load? disk path

end ShaderBundle.Settings
