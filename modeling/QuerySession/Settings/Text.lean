import QuerySession.Settings.Form
import QuerySession.Toml.Reader
import QuerySession.Toml.Writer

/-!
# Settings as texts

Settings are kept in a settings file. What is read from one can be used, since it is validated.

## Main Definitions

* `Settings.toText` — the file that stands for settings
* `Settings.ofText` — the settings that a file stands for, if they can be used
-/

namespace QuerySession.Settings

/-- The text of the file that stands for settings. -/
def toText (s : Settings) : String := Toml.write ((codec.encode s).members?.getD [])

/-- The settings that a text stands for, whether or not they can be used. -/
def ofText? (text : String) : Option Settings :=
  (Toml.documentOfText? text).bind (codec.ofTreeWith .settings)

/-- The usable settings that a text stands for. -/
def ofText (text : String) : Except Error Settings :=
  match ofText? text with
  | none => .error (failure "parse_toml" "Failed to parse config" "Check TOML syntax in config file"
      .foreign)
  | some s => match s.validate with
    | .ok () => .ok s
    | .error e => .error e

end QuerySession.Settings
