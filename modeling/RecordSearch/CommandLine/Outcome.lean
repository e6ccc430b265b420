import RecordSearch.Error
import RecordSearch.Storage
import RecordSearch.Waiting

/-!
# What a run meets and what it leaves

A run finds an environment and files. Some of what it meets on its way is not decided by
the program either: how its requests are served, and whether a table for a cache of
some capacity can be made.

It leaves an exit code, the two outputs and the files as they are afterwards.
-/

namespace RecordSearch.CommandLine

/-- What comes of making a table. -/
inductive TableMaking
  | made
  /-- Its size is larger than any size can be. -/
  | beyondSizes
  /-- The system has no memory for it. -/
  | beyondMemory
deriving DecidableEq, Repr

/-- What the program meets. -/
structure Surroundings where
  environment : List (String × String)
  /-- The home directory of the account that runs the program, if it has one. -/
  accountHome : Option String
  files : Files
  /-- How the requests of the run are served, by number. -/
  services : Nat → Service
  /-- What comes of making the table of a cache, by capacity. -/
  cacheTable : Nat → TableMaking
  /-- The exit code of a run that breaks off. There is none in a build where the
  system stops such a run. -/
  breakCode : Option Nat

namespace Surroundings

/-- What comes of making the cache that the settings want. One that keeps nothing has no
table. -/
def cacheMaking (around : Surroundings) (settings : Settings) : TableMaking :=
  if settings.cacheSize = 0 then .made else around.cacheTable settings.cacheSize.toNat

end Surroundings

/-- Why a command failed. -/
inductive Failure
  | storage (e : StorageError)
  | search (e : SearchError)
  /-- The time was up before a page came. -/
  | searchLate
  /-- The failure of the search was shown. -/
  | searchFailed
  | noResult
  /-- The time was up before a list came. -/
  | suggestionsLate

namespace Failure

/-- The wording of a failure. -/
def message : Failure → String
  | .storage e => e.message
  | .search e => e.message
  | .searchLate => "Timed out waiting for search results"
  | .searchFailed => "search failed"
  | .noResult => "Search finished without a result page"
  | .suggestionsLate => "Timed out waiting for suggestions"

end Failure

/-- What the program leaves when it ends. -/
structure Outcome where
  /-- There is none if the system stopped the run. -/
  exitCode : Option Nat
  stdout : String
  stderr : String
  files : Files

namespace Outcome

/-- A run that succeeded. -/
def success (stdout stderr : String) (files : Files) : Outcome :=
  ⟨some 0, stdout, stderr, files⟩

/-- A run that failed after some output. -/
def failure (stdout : String) (e : Failure) (files : Files) : Outcome :=
  ⟨some 1, stdout, "Error: " ++ e.message ++ "\n", files⟩

/-- A run that broke off after some output, at a size or a time that no number can
tell. -/
def broken (code : Option Nat) (stdout : String) (files : Files) : Outcome :=
  ⟨code, stdout, "a size or a time is too large\n", files⟩

/-- A run that asked for more memory than there is. -/
def stopped (files : Files) : Outcome :=
  ⟨none, "", "out of memory\n", files⟩

end Outcome

end RecordSearch.CommandLine
