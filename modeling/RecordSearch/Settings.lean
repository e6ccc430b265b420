/-!
# Settings

What an installation can set: the page size, how long typing must rest before
suggestions are asked for, how many suggestion lists are kept, and how much is
logged.
-/

namespace RecordSearch

/-- The settings of an installation. -/
structure Settings where
  pageSize : UInt32
  /-- In milliseconds. -/
  debounce : UInt64
  /-- The number of suggestion lists kept; none are at zero. -/
  cacheSize : UInt64
  logLevel : String
deriving DecidableEq, Repr

namespace Settings

/-- What holds where nothing is set. -/
def default : Settings :=
  ⟨10, 200, 32, "info"⟩

instance : Inhabited Settings := ⟨default⟩

end Settings

end RecordSearch
