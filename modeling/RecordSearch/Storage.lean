import RecordSearch.Files
import RecordSearch.Fixture
import RecordSearch.Json.Printer

/-!
# Settings and fixtures in files

Settings that are not there are the default ones; settings that are there but
cannot be read, or are no settings, are an error. A fixture has to be there.
-/

namespace RecordSearch

open RecordSearch.Json

/-- What can go wrong with a file. -/
inductive StorageError
  | settingsUnreadable (path : String)
  | settingsInvalid (path : String)
  | settingsUnwritable (path : String)
  | fixtureUnreadable (path : String)
  | fixtureInvalid (path : String)
  /-- The text of a fixture that comes from no file. -/
  | fixtureTextInvalid
  | directoryNotMade (path : String)
  | noHome
deriving DecidableEq, Repr

namespace StorageError

/-- The wording of an error. -/
def message : StorageError → String
  | .settingsUnreadable path => "Failed to read config file " ++ path
  | .settingsInvalid path => "Failed to parse config file " ++ path
  | .settingsUnwritable path => "Failed to write config file " ++ path
  | .fixtureUnreadable path => "Failed to read fixture " ++ path
  | .fixtureInvalid path => "Invalid fixture " ++ path
  | .fixtureTextInvalid => "Failed to parse fixture JSON"
  | .directoryNotMade path => "Failed to create " ++ path
  | .noHome => "Could not determine app config directory"

end StorageError

namespace Settings

/-- Reads the text of settings. -/
def parse? (text : String) : Option Settings :=
  (Value.parse? text).bind ofJson?

/-- The text of settings. -/
def text (settings : Settings) : String :=
  settings.toJson.pretty

/-- Reads the settings in a file. -/
def load (files : Files) (path : String) : Except StorageError Settings :=
  if files.exists? path then
    match files.readText path with
    | none => .error (.settingsUnreadable path)
    | some text =>
      match parse? text with
      | none => .error (.settingsInvalid path)
      | some settings => .ok settings
  else .ok default

/-- Writes the settings into a file. -/
def save (settings : Settings) (files : Files) (path : String) : Except StorageError Files :=
  match files.writeText path settings.text with
  | none => .error (.settingsUnwritable path)
  | some files => .ok files

end Settings

namespace Fixture

/-- Reads a fixture from its text. -/
def ofText (text : String) : Except StorageError Fixture :=
  match parse? text with
  | none => .error .fixtureTextInvalid
  | some data => .ok data

/-- Reads the fixture in a file. -/
def load (files : Files) (path : String) : Except StorageError Fixture :=
  match files.readText path with
  | none => .error (.fixtureUnreadable path)
  | some text =>
    match parse? text with
    | none => .error (.fixtureInvalid path)
    | some data => .ok data

end Fixture

end RecordSearch
