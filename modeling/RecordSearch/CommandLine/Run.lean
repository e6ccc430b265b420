import RecordSearch.CommandLine.Command
import RecordSearch.CommandLine.Search
import RecordSearch.CommandLine.Suggest

/-!
# Running a command

A run of the program is a function of its arguments and of what it meets: it finds the
settings, loads them, and runs the command that the arguments name.
-/

namespace RecordSearch.CommandLine

open RecordSearch.Json

/-! ## Where settings are -/

/-- The directory name and the file name of the settings. -/
def applicationName : String := "facetsync"
def settingsName : String := "config.json"

/-- The home directory: what the environment says, else that of the account. -/
def homeDirectory (environment : List (String × String)) (accountHome : Option String) :
    Option String :=
  ((environment.lookup "HOME").filter (· ≠ "")).or accountHome

/-- The directory where applications keep their settings. -/
def configDirectory (environment : List (String × String)) (accountHome : Option String) :
    Option String :=
  match (environment.lookup "XDG_CONFIG_HOME").filter (·.startsWith "/") with
  | some dir => some dir
  | none => (homeDirectory environment accountHome).map (Files.join · ".config")

/-- The path of the settings where none is given, with its directory made. -/
def defaultSettingsPath (around : Surroundings) : Except StorageError (String × Files) :=
  match configDirectory around.environment around.accountHome with
  | none => .error .noHome
  | some dir =>
    let own := Files.join dir applicationName
    match around.files.makeDirectories own with
    | none => .error (.directoryNotMade own)
    | some files => .ok (Files.join own settingsName, files)

/-- The path of the settings, and the files with its directory in them. -/
def settingsPath (around : Surroundings) (given : Option String) :
    Except StorageError (String × Files) :=
  match given with
  | some path => .ok (path, around.files)
  | none => defaultSettingsPath around

/-! ## The commands -/

/-- Whether output is colored: not on a dumb terminal, and not against the
wish. -/
def showsColor (environment : List (String × String)) (wanted : Bool) : Bool :=
  let capable := match environment.lookup "TERM" with
    | some term => term ≠ "dumb"
    | none => false
  wanted && capable && (environment.lookup "NO_COLOR").isNone

/-- The document that tells what parameters mean to the standard fields. -/
def paramsDocument (query : String) : Except SearchError Value := do
  let filters ← Filters.ofSpecs standardFields
  let (outcome, filters) := filters.readParameters (.parse query) .address
  let _ ← outcome
  return .sorted [
    ("params", .text filters.parameters.encoded),
    ("values", Values.toJson filters.values)]

/-- Runs a command with the settings that were loaded. -/
def runCommand (around : Surroundings) (settings : Settings) (invocation : Invocation) : Outcome :=
  let styled := showsColor around.environment invocation.color
  match invocation.command with
  | .params query =>
    match paramsDocument query with
    | .ok document => .success (printDocument document) "" around.files
    | .error e => .failure "" (.search e) around.files
  | .search query fixture next previous json =>
    match Fixture.load around.files fixture with
    | .error e => .failure "" (.storage e) around.files
    | .ok data => searchOutcome around data settings styled query next previous json
  | .suggest fixture interval keystrokes =>
    match Fixture.load around.files fixture with
    | .error e => .failure "" (.storage e) around.files
    | .ok data => suggestOutcome around data settings styled interval keystrokes
  | .config save =>
    let stdout := printDocument settings.toJson
    if save then
      match settingsPath around invocation.settingsPath with
      | .error e => .failure stdout (.storage e) around.files
      | .ok (path, files) =>
        match settings.save files path with
        | .error e => .failure stdout (.storage e) files
        | .ok files => .success stdout ("Saved config to " ++ path ++ "\n") files
    else .success stdout "" around.files

/-- Loads the settings and runs the command. -/
def runInvocation (around : Surroundings) (invocation : Invocation) : Outcome :=
  match settingsPath around invocation.settingsPath with
  | .error e => .failure "" (.storage e) around.files
  | .ok (path, files) =>
    match Settings.load files path with
    | .error e => .failure "" (.storage e) files
    | .ok settings => runCommand { around with files := files } settings invocation

/-- How the program is used. -/
def usage : String :=
  "Usage: " ++ applicationName ++ " [--config <FILE>] [--no-color] <COMMAND>\n\n" ++
  "Commands:\n" ++
  "  params <QUERY>\n" ++
  "  search <QUERY> --fixture <FILE> [--next <N>] [--previous <N>] [--json]\n" ++
  "  suggest --fixture <FILE> [--interval-ms <N>] <KEYSTROKES>...\n" ++
  "  config [--save]\n"

/-- Runs the program. -/
def run (around : Surroundings) (args : List String) : Outcome :=
  match Invocation.ofArguments args with
  | .ok invocation => runInvocation around invocation
  | .error .help => .success usage "" around.files
  | .error .usage => ⟨some 2, "", usage, around.files⟩

end RecordSearch.CommandLine
