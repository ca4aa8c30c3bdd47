import QuerySession.Settings.Text
import QuerySession.Storage.Disk

/-!
# Settings files

Settings are saved to a file of a disk and loaded from one.

## Main Definitions

* `Settings.save` — write settings to a file
* `Settings.load` — the usable settings that a file holds
-/

namespace QuerySession.Settings

/-- Write settings to a file, over the one that may be there. -/
def save (d : Disk) (names : List String) (s : Settings) : Except Error Disk :=
  match d.store names s.toText.toUTF8.toList with
  | .ok d => .ok d
  | .error fault => .error (failure "write_file"
      ("Failed to write config file: " ++ fault.message)
      "Check if the directory exists and is writable" (.system fault.message))

/-- The text in a file, or why it cannot be read. -/
def readText (d : Disk) (names : List String) : Except String String :=
  match d.contents names with
  | .error fault => .error fault.message
  | .ok bytes => match String.fromUTF8? ⟨bytes.toArray⟩ with
    | some text => .ok text
    | none => .error "stream did not contain valid UTF-8"

/-- The usable settings that a file holds. -/
def load (d : Disk) (names : List String) : Except Error Settings :=
  match readText d names with
  | .ok text => ofText text
  | .error fault => .error (failure "read_file" ("Failed to read config file: " ++ fault)
      "Check if the config file exists and is readable" (.system fault))

end QuerySession.Settings
