import RecordSearch.CommandLine.Run

/-!
# The program

Brings the files that the arguments name, and the environment, to the
command line, and carries out what it answers.
-/

namespace RecordSearch

/-- The variables of the environment that matter. -/
def variableNames : List String :=
  ["TERM", "NO_COLOR", "HOME", "XDG_CONFIG_HOME"]

/-- Those of them that are set. -/
def readVariables : IO (List (String × String)) := do
  let mut found := []
  for name in variableNames do
    if let some value ← IO.getEnv name then
      found := found ++ [(name, value)]
  return found

/-- Adds what stands at a place on disk, if it can be told. -/
def readPlace (files : Files) (place : List String) : IO Files := do
  let path := (← IO.currentDir) / Files.pathOf place
  if ← path.isDir then return files.put place .directory
  if ← path.pathExists then
    try
      return files.put place (.file (← IO.FS.readBinFile path))
    catch _ => return files.put place .directory
  return files

/-- The text of a file of the system, empty if there is none. -/
def systemText (path : String) : IO String := do
  try
    IO.FS.readFile path
  catch _ => return ""

/-- The home directory of the account that runs the program. -/
def readAccountHome : IO (Option String) := do
  let status := (← systemText "/proc/self/status").splitOn "\n"
  let accounts := (← systemText "/etc/passwd").splitOn "\n"
  return do
    let line ← status.find? (·.startsWith "Uid:")
    let user ← (line.splitOn "\t")[1]?
    let account ← (accounts.map (·.splitOn ":")).find? (·[2]? = some user)
    account[5]?

/-- The exit code of a run that the system stopped. -/
def stoppedCode : Nat := 134

/-- What a run meets here. Requests are answered inside the program, at once and in no time
that it could measure, and its caches have no tables that could be too large. -/
def surroundings (environment : List (String × String)) (accountHome : Option String)
    (files : Files) : CommandLine.Surroundings where
  environment
  accountHome
  files
  services _ := .prompt
  cacheTable _ := .made
  breakCode := none

/-- The paths that a run may read or write. -/
def pathsOf (environment : List (String × String)) (accountHome : Option String)
    (args : List String) : List String :=
  let own := (CommandLine.configDirectory environment accountHome).toList.map fun dir =>
    Files.join (Files.join dir CommandLine.applicationName) CommandLine.settingsName
  match CommandLine.Invocation.ofArguments args with
  | .error _ => []
  | .ok invocation =>
    let settings := invocation.settingsPath.elim own ([·])
    match invocation.command with
    | .search _ fixture _ _ _ | .suggest fixture _ _ => settings ++ [fixture]
    | _ => settings

/-- Writes to disk what is new. The oldest node of a run is the last of its
list, so directories are made before what they contain. -/
def writeChanges (before after : Files) : IO Unit := do
  for (place, node) in after.nodes.reverse do
    let path := (← IO.currentDir) / Files.pathOf place
    match before.node? place, node with
    | some .directory, _ => pure ()
    | _, .directory => IO.FS.createDirAll path
    | some (.file old), .file content =>
      if old != content then IO.FS.writeBinFile path content
    | none, .file content => IO.FS.writeBinFile path content

end RecordSearch

open RecordSearch in
def main (args : List String) : IO UInt32 := do
  let environment ← readVariables
  let accountHome ← readAccountHome
  let here := (Files.names (← IO.currentDir).toString).filter (· ≠ "")
  let mut files : Files := ⟨[], here⟩
  for k in List.range (here.length + 1) do
    files := files.put (here.take k) .directory
  for path in pathsOf environment accountHome args do
    for place in files.stations path do
      files ← readPlace files place
  let outcome := CommandLine.run (surroundings environment accountHome files) args
  IO.print outcome.stdout
  IO.eprint outcome.stderr
  try
    writeChanges files outcome.files
    return (outcome.exitCode.getD stoppedCode).toUInt32
  catch e =>
    IO.eprintln ("Error: " ++ toString e)
    return 1
