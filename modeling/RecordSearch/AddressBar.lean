import RecordSearch.Parameters

/-!
# The address bar

An address is a path and parameters. The bar remembers the parameters of every
address it has shown. A visit puts a new entry on top; a navigation, which is
how the controller writes to the bar, changes the entry on top or adds one, and
either keeps the parameters that its patch does not mention or drops them.
-/

namespace RecordSearch

/-- What becomes of the parameters that a patch does not mention. -/
inductive OtherKeys
  | keep
  | drop
deriving DecidableEq, Repr

/-- Whether a navigation changes the entry on top or adds one. -/
inductive EntryMode
  | inPlace
  | push
deriving DecidableEq, Repr

/-- A path with a history of parameters. -/
structure AddressBar where
  path : String
  /-- The parameters shown now. -/
  current : Parameters
  /-- Those shown before, the latest first. -/
  earlier : List Parameters
  /-- How often the bar was navigated. -/
  navigations : Nat
deriving DecidableEq, Repr

namespace AddressBar

/-- A bar that shows its first address. -/
def showing (path : String) (params : Parameters) : AddressBar :=
  ⟨path, params, [], 0⟩

instance : Inhabited AddressBar := ⟨showing "/" .empty⟩

/-- The path of an address: all before its query and its fragment. -/
def pathPart (url : List Char) : List Char :=
  url.takeWhile fun c => c != '?' && c != '#'

/-- A bar that shows an address given as text. -/
def ofUrl (url : String) : AddressBar :=
  showing (String.ofList (pathPart url.toList)) (.parse url)

/-- The address shown. -/
def url (bar : AddressBar) : String :=
  bar.path ++ bar.current.display

/-- The number of entries, the one on top included. -/
def historyLength (bar : AddressBar) : Nat :=
  bar.earlier.length + 1

/-- Shows new parameters on top of the history. -/
def visit (bar : AddressBar) (params : Parameters) : AddressBar :=
  { bar with current := params, earlier := bar.current :: bar.earlier }

/-- Applies a patch to the address shown. -/
def navigate (bar : AddressBar) (patch : Patch) (others : OtherKeys)
    (mode : EntryMode) : AddressBar :=
  let base := match others with
    | .keep => bar.current
    | .drop => .empty
  let next := base.patch patch
  match mode with
  | .inPlace => { bar with current := next, navigations := bar.navigations + 1 }
  | .push => { bar.visit next with navigations := bar.navigations + 1 }

/-- Applies a patch in place and keeps all other parameters. -/
def update (bar : AddressBar) (patch : Patch) : AddressBar :=
  bar.navigate patch .keep .inPlace

end AddressBar

end RecordSearch
