import RecordSearch.Urlencoded

/-!
# Query parameters

The parameters of an address are an ordered multimap: a list of pairs in which
a key may repeat. Writing a key that is present changes its first occurrence
and drops the others, so the order of unrelated parameters never moves; a new
key goes to the end.

A patch is a list of keys with the value to write, or with none for a key to
remove. Its entries are applied in order.
-/

namespace RecordSearch

open RecordSearch.Text

/-- Changes to parameters, key by key: a value to write, or none to remove. -/
abbrev Patch := List (String × Option String)

/-- The ordered parameters of an address. -/
structure Parameters where
  pairs : List (String × String)
deriving DecidableEq, Repr, Inhabited

namespace Parameters

def empty : Parameters := ⟨[]⟩

/-- The query inside a query string, a path or a whole address. It begins
after the first question mark and ends before a fragment. A text without a
question mark is all query unless it looks like a path, that is, unless it has
a slash and no equals sign. -/
def queryPart (raw : List Char) : List Char :=
  let shown := raw.takeWhile (· != '#')
  if '?' ∈ shown then (shown.dropWhile (· != '?')).drop 1
  else if '=' ∈ shown ∨ '/' ∉ shown then shown
  else []

/-- Reads the parameters of a query string or an address. A pair with an empty
key is no parameter. -/
def parse (raw : String) : Parameters :=
  ⟨(Urlencoded.read (queryPart raw.toList)).filter fun pair => pair.1 ≠ ""⟩

/-- The parameters in form encoding, without a question mark. -/
def encoded (p : Parameters) : String :=
  String.ofList (Urlencoded.write p.pairs)

/-- The end of an address that carries the parameters: empty without any. -/
def display (p : Parameters) : String :=
  if p.pairs = [] then "" else "?" ++ p.encoded

instance : ToString Parameters := ⟨display⟩

/-- The first value of a key. -/
def get? (p : Parameters) (key : String) : Option String :=
  (p.pairs.find? (·.1 = key)).map (·.2)

def contains (p : Parameters) (key : String) : Bool :=
  p.pairs.any (·.1 = key)

def keys (p : Parameters) : List String :=
  p.pairs.map (·.1)

def size (p : Parameters) : Nat :=
  p.pairs.length

def isEmpty (p : Parameters) : Bool :=
  p.pairs.isEmpty

/-- Pairs without those of one key. -/
def without (key : String) (pairs : List (String × String)) : List (String × String) :=
  pairs.filter (·.1 ≠ key)

/-- Pairs in which `key` occurs once, with the given value: where it first
occurred, or at the end. -/
def setPairs (key value : String) : List (String × String) → List (String × String)
  | [] => [(key, value)]
  | pair :: rest =>
    if pair.1 = key then (key, value) :: without key rest
    else pair :: setPairs key value rest

/-- Writes a key. -/
def set (p : Parameters) (key value : String) : Parameters :=
  ⟨setPairs key value p.pairs⟩

/-- Removes every occurrence of a key. -/
def erase (p : Parameters) (key : String) : Parameters :=
  ⟨without key p.pairs⟩

/-- Applies one entry of a patch. -/
def patchEntry (p : Parameters) (entry : String × Option String) : Parameters :=
  match entry.2 with
  | some value => p.set entry.1 value
  | none => p.erase entry.1

/-- Applies a patch; keys it does not mention keep their pairs. -/
def patch (p : Parameters) (patch : Patch) : Parameters :=
  patch.foldl patchEntry p

/-- The parameters got by writing pairs one after another, so that a repeated
key keeps its first place and its last value. -/
def ofList (pairs : List (String × String)) : Parameters :=
  pairs.foldl (fun p pair => p.set pair.1 pair.2) empty

end Parameters

end RecordSearch
