import RecordSearch.AddressBar
import RecordSearch.Form
import RecordSearch.Paging
import RecordSearch.Request
import RecordSearch.Settings

/-!
# The search controller

The controller keeps four things in step: the form, the filters, the address
bar and the query at the backend. It is driven from outside. A person submits
the form, turns a page or goes to another address, and at every tick the
controller is polled; only then does it write to the address bar, start
searches asked for by others, and pick up answers.

What the person wants flows from the form into the filters, and from there into
the address and the query. What an address says flows into the filters and the
form. Changes that came from an address are announced as such and are
never written back, which is what keeps the two flows from chasing each other.

A search needs a text or a category. It replaces the search before it, whose
answer is from then on refused, and it clears the results and the error shown,
so that what is shown always answers the query last asked.
-/

namespace RecordSearch

/-- Which fields play which part. -/
structure Wiring where
  pageSize : UInt32
  /-- The free-text field, one of the two of which a search needs one. -/
  textField : String
  /-- The category field, the other one. -/
  categoryField : String
  pageField : String
  /-- The field whose choices are loaded at the start. -/
  preloadField : String
deriving DecidableEq, Repr

namespace Wiring

/-- The parts of the standard fields. -/
def default : Wiring :=
  ⟨10, RecordSearch.textField, RecordSearch.categoryField, RecordSearch.pageField,
    credentialTypeField⟩

instance : Inhabited Wiring := ⟨default⟩

/-- The standard parts with the page size of an installation, which is at least
one. -/
def ofSettings (settings : Settings) : Wiring :=
  { default with pageSize := max settings.pageSize 1 }

/-- The fields of which a search needs one. -/
def neededFields (wiring : Wiring) : List String :=
  [wiring.textField, wiring.categoryField]

/-- All fields that play a part. -/
def wiredFields (wiring : Wiring) : List String :=
  [wiring.textField, wiring.categoryField, wiring.pageField, wiring.preloadField]

end Wiring

/-- Where a controller stands. -/
inductive Phase
  | initializing
  | ready
  | searching
  /-- The last search failed. -/
  | failed
  | disposed
deriving DecidableEq, Repr

/-- What a load brings: a page, or a failure. -/
abbrev PageAnswer (ι : Type) := Except LoadFailure (ResultPage ι)

/-- The search whose answer is awaited. -/
structure Flight where
  /-- Its number at the search desk. -/
  number : Nat
  query : Query
deriving DecidableEq

/-- The state of a controller over records of type `ι`. -/
structure Controller (ι : Type) where
  wiring : Wiring
  filters : Filters
  form : Form
  addressBar : AddressBar
  /-- Where pages of records are asked for. -/
  searches : Desk Query (PageAnswer ι)
  /-- Where the choices known beforehand are asked for. -/
  preloads : Desk Query (PageAnswer Choice)
  phase : Phase
  /-- Whether the last attempt to search was turned down for want of a query. -/
  turnedDown : Bool
  /-- Whether page turns and refreshes search. Never ends once begun. -/
  engaged : Bool
  /-- The parameters last written to the address bar, or read from it. -/
  knownParameters : Parameters
  /-- How many refresh handles were given out. -/
  handles : Nat
  /-- How many refreshes were asked for since the last tick. -/
  refreshes : Nat
  flight : Option Flight
  /-- The number of the awaited preload at its desk. -/
  preloadFlight : Option Nat
  results : Option (ResultPage ι)
  lastError : Option SearchError
  /-- Whether some search has come to an end, and so has a duration. -/
  timed : Bool

/-- A construction that failed, with what has become of the two desks. -/
structure Refusal (ι : Type) where
  error : SearchError
  searches : Desk Query (PageAnswer ι)
  preloads : Desk Query (PageAnswer Choice)

namespace Controller

variable {ι : Type}

/-- The subscription of a controller at the value feed of its filters, where
it is the first and only one. -/
def ownSubscription : Nat := 0

/-- The page size of the preload. -/
def preloadPageSize : UInt32 := 100

/-! ## Reading -/

/-- How many searches were started. -/
def searchCount (c : Controller ι) : Nat :=
  c.searches.size

def isSearching (c : Controller ι) : Bool :=
  c.flight.isSome

/-- The query whose answer is awaited. -/
def pendingQuery (c : Controller ι) : Option Query :=
  c.flight.map (·.query)

/-- The page number in effect. -/
def currentPage (c : Controller ι) : UInt32 :=
  c.filters.page c.wiring.pageField

/-- Whether the filters hold what a search needs. -/
def canSearch (c : Controller ι) : Bool :=
  c.wiring.neededFields.any c.filters.isMoved

/-! ## Searching -/

/-- Turns down a search without a query, so that the form shows it. -/
def turnDown (c : Controller ι) : SearchError × Controller ι :=
  (.blankQuery c.wiring.neededFields,
    { c with turnedDown := true, form := c.form.touchAll c.filters })

/-- Stops waiting for the search in flight. -/
def dropSearch (c : Controller ι) : Controller ι :=
  match c.flight with
  | some flight => { c with searches := c.searches.withdraw flight.number, flight := none }
  | none => c

/-- The query that the field values make. -/
def query (c : Controller ι) : Query :=
  ⟨c.filters.values, c.wiring.pageSize⟩

/-- Starts the search for the field values in place of the one in flight, or
turns it down if there is nothing to search for. -/
def beginSearch (c : Controller ι) : Except SearchError Unit × Controller ι :=
  if c.canSearch then
    let c := c.dropSearch
    (.ok (), { c with
      turnedDown := false
      searches := c.searches.file c.query
      flight := some ⟨c.searches.size, c.query⟩
      results := none
      lastError := none
      phase := .searching })
  else
    let (error, c) := c.turnDown
    (.error error, c)

/-! ## The end of a controller -/

/-- Stops waiting for the preload. -/
def dropPreload (c : Controller ι) : Controller ι :=
  match c.preloadFlight with
  | some number =>
    { c with preloads := c.preloads.withdraw number, preloadFlight := none }
  | none => c

/-- Tears the controller down: closes the feeds of the filters, forgets the
refreshes asked for, stops waiting for answers, and releases both desks. What
it has shown stays. A second time does nothing. -/
def dispose (c : Controller ι) : Controller ι :=
  if c.phase = .disposed then c
  else
    let c := c.dropSearch.dropPreload
    { c with
      filters := c.filters.close
      refreshes := 0
      searches := c.searches.release
      preloads := c.preloads.release
      phase := .disposed }

/-! ## The beginning of a controller -/

/-- Copies the address into the filters and the form. -/
def readAddress (c : Controller ι) : Except SearchError Bool × Controller ι :=
  match c.filters.readParameters c.addressBar.current .address with
  | (.ok changed, filters) =>
    (.ok changed, { c with
      filters := filters
      knownParameters := filters.parameters
      form := c.form.refill filters })
  | (.error e, filters) => (.error e, { c with filters := filters })

/-- Asks for the choices known beforehand. -/
def startPreload (c : Controller ι) : Controller ι :=
  { c with
    preloadFlight := some c.preloads.size
    preloads := c.preloads.file ⟨.empty, preloadPageSize⟩ }

/-- Whether some visible field is off its default. -/
def showsFilter (c : Controller ι) : Bool :=
  c.filters.visibleSpecs.any fun spec => c.filters.isMoved spec.name

/-- Takes a new controller to where it can be used: starts the preload, reads
the address, and searches if that makes a query. -/
def launch (c : Controller ι) : Except SearchError Unit × Controller ι :=
  match c.wiring.wiredFields.find? fun name => !c.filters.contains name with
  | some name => (.error (.unknownField name), c)
  | none =>
    match c.startPreload.readAddress with
    | (.error e, c) => (.error e, c)
    | (.ok _, c) =>
      let c := { c with engaged := c.showsFilter, phase := .ready }
      if c.canSearch then c.beginSearch else (.ok (), c)

/-- A controller before anything has happened. -/
def blank (wiring : Wiring) (filters : Filters)
    (searches : Desk Query (PageAnswer ι))
    (preloads : Desk Query (PageAnswer Choice)) (bar : AddressBar) : Controller ι :=
  { wiring
    filters := { filters with valueFeed := filters.valueFeed.subscribe.2 }
    form := .empty
    addressBar := bar
    searches
    preloads
    phase := .initializing
    turnedDown := false
    engaged := false
    knownParameters := .empty
    handles := 0
    refreshes := 0
    flight := none
    preloadFlight := none
    results := none
    lastError := none
    timed := false }

/-- Builds a controller that shows what the address bar says. Fails if fields
share a key or a part is given to no field; both desks are released then. -/
def create (wiring : Wiring) (specs : List FieldSpec)
    (searches : Desk Query (PageAnswer ι))
    (preloads : Desk Query (PageAnswer Choice)) (bar : AddressBar) :
    Except (Refusal ι) (Controller ι) :=
  match Filters.ofSpecs specs with
  | .error e => .error ⟨e, searches.release, preloads.release⟩
  | .ok filters =>
    match (blank wiring filters searches preloads bar).launch with
    | (.ok _, c) => .ok c
    | (.error e, c) =>
      let c := c.dispose
      .error ⟨e, c.searches, c.preloads⟩

/-! ## What the person does -/

/-- Runs an operation of a controller that has not been torn down. -/
def whenLive {β : Type} (c : Controller ι)
    (operation : Controller ι → Except SearchError β × Controller ι) :
    Except SearchError β × Controller ι :=
  if c.phase = .disposed then (.error .disposed, c) else operation c

/-- Accepts the form: copies it into the filters, back on the first page, and
searches. Turned down if neither of the controls that a search needs is filled. -/
def submit (c : Controller ι) : Except SearchError Unit × Controller ι :=
  c.whenLive fun c =>
    if c.wiring.neededFields.any c.form.holds then
      let changes := c.form.assignments c.filters ++ [Filters.pageReset c.wiring.pageField]
      match c.filters.assign changes .user with
      | (.error e, filters) => (.error e, { c with filters := filters })
      | (.ok _, filters) =>
        beginSearch { c with filters := filters, form := c.form.untouch, engaged := true }
    else
      let (error, c) := c.turnDown
      (.error error, c)

/-- Turns the page, and searches once the controller is engaged. Turned down, before
the page moves, if the search would be. At the first and the last page number a
turn that leads nowhere does nothing. -/
def turnPage (c : Controller ι) (turn : PageTurn) : Except SearchError UInt32 × Controller ι :=
  c.whenLive fun c =>
    let before := c.currentPage
    if turn.target before = before then (.ok before, c)
    else if c.engaged && !c.canSearch then
      let (error, c) := c.turnDown
      (.error error, c)
    else
      match c.filters.turnPage c.wiring.pageField turn with
      | (.error e, filters) => (.error e, { c with filters := filters })
      | (.ok page, filters) =>
        let c := { c with filters := filters }
        if c.engaged then
          match c.beginSearch with
          | (.ok _, c) => (.ok page, c)
          | (.error e, c) => (.error e, c)
        else (.ok page, c)

/-- Shows what the address bar says now. If values change, the new ones are
searched, or, if they make no query, the search in flight and all that is shown
are dropped. Tells whether values changed. -/
def followAddress (c : Controller ι) : Except SearchError Bool × Controller ι :=
  c.whenLive fun c =>
    match c.filters.readParameters c.addressBar.current .address with
    | (.error e, filters) => (.error e, { c with filters := filters })
    | (.ok false, filters) => (.ok false, { c with filters := filters })
    | (.ok true, filters) =>
      let c := { c with
        filters := filters
        knownParameters := filters.parameters
        form := c.form.refill filters }
      if c.canSearch then
        match beginSearch { c with engaged := true } with
        | (.ok _, c) => (.ok true, c)
        | (.error e, c) => (.error e, c)
      else
        (.ok true, { c.dropSearch with results := none, lastError := none, phase := .ready })

/-! ## What others ask for -/

/-- Gives out a handle by which others can ask for a refresh. -/
def takeHandle (c : Controller ι) : Except SearchError Nat × Controller ι :=
  c.whenLive fun c => (.ok c.handles, { c with handles := c.handles + 1 })

/-- Asks by a handle for the search to be run again at the next tick. Not
possible, hence none, with a number that was never given out. -/
def refresh (c : Controller ι) (handle : Nat) :
    Option (Except SearchError Unit) × Controller ι :=
  if handle < c.handles then
    if c.phase = .disposed then (some (.error .disposed), c)
    else (some (.ok ()), { c with refreshes := c.refreshes + 1 })
  else (none, c)

/-! ## A tick -/

/-- Writes the values to the address bar, if some change since the last tick
came from elsewhere and the bar does not show them already. -/
def syncAddress (c : Controller ι) : Controller ι :=
  let (changes, feed) := c.filters.valueFeed.drain ownSubscription
  let c := { c with filters := { c.filters with valueFeed := feed } }
  if changes.any (·.source ≠ .address) then
    let target := c.filters.parameters
    if target = c.knownParameters then c
    else { c with
      addressBar := c.addressBar.update c.filters.addressPatch
      knownParameters := target }
  else c

/-- Runs the search again if that was asked for since the last tick, however
often, and the controller is engaged. -/
def serveRefreshes (c : Controller ι) : Controller ι :=
  let asked := c.refreshes
  let c := { c with refreshes := 0 }
  if asked = 0 || !c.engaged then c else c.beginSearch.2

/-- Picks up the choices known beforehand. A failure leaves the field as it is. -/
def collectChoices (c : Controller ι) : Controller ι :=
  match c.preloadFlight with
  | none => c
  | some number =>
    let (seen, preloads) := c.preloads.poll number
    let c := { c with preloads := preloads }
    match seen with
    | .pending => c
    | .ready (.ok page) =>
      let c := c.dropPreload
      { c with filters := (c.filters.setChoices c.wiring.preloadField page.data).2 }
    | .ready (.error _) | .abandoned => c.dropPreload

/-- Makes facets into choices. Those that name no field are ignored. -/
def offerFacets (c : Controller ι) (facets : Facets) : Controller ι :=
  { c with
    filters := facets.toChoices.toList.foldl
      (fun filters entry => (filters.setChoices entry.1 entry.2).2) c.filters }

/-- Shows the failure of the search in flight. -/
def showFailure (c : Controller ι) (error : SearchError) : Controller ι :=
  { c.dropSearch with timed := true, lastError := some error, phase := .failed }

/-- Shows the page that the search in flight has brought. -/
def showPage (c : Controller ι) (page : ResultPage ι) : Controller ι :=
  { c.dropSearch.offerFacets page.facets with
    timed := true, results := some page, lastError := none, phase := .ready }

/-- Picks up the answer to the search in flight. -/
def collectResults (c : Controller ι) : Controller ι :=
  match c.flight with
  | none => c
  | some flight =>
    let (seen, searches) := c.searches.poll flight.number
    let c := { c with searches := searches }
    match seen with
    | .pending => c
    | .ready (.ok page) => c.showPage page
    | .ready (.error e) => c.showFailure (.ofLoad e)
    | .abandoned => c.showFailure (.queryFailure "loader dropped the request")

/-- One tick: the address, the refreshes, the preload and the search, in this
order. -/
def poll (c : Controller ι) : Controller ι :=
  if c.phase = .disposed then c
  else c.syncAddress.serveRefreshes.collectChoices.collectResults

/-! ## Text -/

/-- The name of a phase in a log or a debugger. -/
def phaseText : Phase → String
  | .initializing => "Initializing"
  | .ready => "Ready"
  | .searching => "Searching"
  | .failed => "Error"
  | .disposed => "Disposed"

/-- The text of a controller in a log or a debugger. -/
def debugText (c : Controller ι) : String :=
  let flag (b : Bool) := if b then "true" else "false"
  "SearchController \x7b state: " ++ phaseText c.phase ++ ", fields: " ++ c.filters.debugText ++
    ", blank_query: " ++ flag c.turnedDown ++ ", latch_open: " ++ flag c.engaged ++
    ", generation: " ++ toString c.searchCount ++ " \x7d"

end Controller

end RecordSearch
