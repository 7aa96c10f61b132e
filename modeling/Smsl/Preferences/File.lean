import Smsl.Preferences.Decoding
import Smsl.Source.Disk

namespace Smsl

/-!
# Preferences files

Preferences are read from a file that holds a document.
-/

/-- What can be wrong with a preferences file. -/
inductive PreferencesError where
  | unreadable (path reason : String)
  | invalid (path : String)
  deriving Repr, DecidableEq

namespace PreferencesError

/-- The name of the kind of an error. -/
def name : PreferencesError → String
  | .unreadable .. => "Read"
  | .invalid _ => "Parse"

/-- The wording of an error. -/
def message : PreferencesError → String
  | .unreadable path reason =>
      "Failed to read preferences file '" ++ path ++ "': " ++ reason
  | .invalid path =>
      "Invalid preferences in '" ++ path ++ "'"

/-- The code of an error. -/
def code : PreferencesError → Code
  | .unreadable .. => Code.configurationError
  | .invalid _ => Code.configurationError

/-- The words in front of an error that keeps a compilation from running. -/
def introduction : String := "Configuration failed"

end PreferencesError

namespace Preferences

/-- The text of the file that a path was found to lead to. -/
def textAt
    (path : String) :
    Lookup → Except PreferencesError String
  | .absent absence =>
      .error (.unreadable path absence.message)
  | .directory =>
      .error (.unreadable path "Is a directory (os error 21)")
  | .file file =>
      match String.fromUTF8? file.contents with
      | some text => .ok text
      | none => .error (.unreadable path "stream did not contain valid UTF-8")

/-- The preferences of a text that comes from a path, on top of their defaults. -/
def parse
    (standard : Preferences)
    (path : String)
    (text : String) :
    Except PreferencesError Preferences :=
  match ofText? standard text with
  | some preferences => .ok preferences
  | none => .error (.invalid path)

/-- The preferences of a file, on top of their defaults. -/
def load
    (standard : Preferences)
    (path : String)
    (found : Lookup) :
    Except PreferencesError Preferences := do
  let text ← textAt path found
  parse standard path text

end Preferences

end Smsl
