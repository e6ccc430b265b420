import RecordSearch.CommandLine.Outcome
import RecordSearch.Controller.Run
import RecordSearch.Decimal.Shortest
import RecordSearch.Json.Printer
import RecordSearch.Report

/-!
# The search command

The command drives a controller as a person would. It opens an address, submits if that
has not searched, and turns pages forward and back; after each of these it waits until
no search is in flight.

It gives up if a wait takes too long. A search that failed is shown as an error, and
otherwise the page is printed, as a document or as a listing.
-/

namespace RecordSearch.CommandLine

open RecordSearch.Decimal RecordSearch.Json

/-- The address that an argument stands for: itself if it has a path, and the
search page with it as the query otherwise. -/
def addressOf (query : String) : String :=
  let chars := query.toList
  if chars.head? = some '/' || Text.occursIn [':', '/', '/'] chars then query
  else "/search?" ++ String.ofList (chars.dropWhile (· = '?'))

/-- Waits until no search is in flight. -/
def awaitSearch (data : Fixture) (services : Nat → Service) (c : Controller Credential) :
    Except Failure (Controller Credential) :=
  match (Controller.waiting fun q => .ok (data.search q)).await services c with
  | .ok c => .ok c
  | .error _ => .error .searchLate

/-- Turns a page as often as asked for, and waits after each turn. -/
def turnPages (data : Fixture) (services : Nat → Service) (turn : PageTurn) :
    Nat → Controller Credential → Except Failure (Controller Credential)
  | 0, c => .ok c
  | n + 1, c =>
    match c.turnPage turn with
    | (.ok _, c) => awaitSearch data services c >>= turnPages data services turn n
    | (.error e, _) => .error (.search e)

/-- A controller at an address. A search that the address has not started is
submitted. -/
def openAddress (data : Fixture) (services : Nat → Service) (settings : Settings)
    (query : String) : Except Failure (Controller Credential) :=
  match data.controller services (.ofSettings settings) standardFields
      (.ofUrl (addressOf query)) with
  | .error refusal => .error (.search refusal.error)
  | .ok c =>
    if c.isSearching then .ok c
    else
      match c.submit with
      | (.ok _, c) => .ok c
      | (.error e, _) => .error (.search e)

/-- Runs the search of an address, and turns pages forward and back. -/
def finishedSearch (data : Fixture) (services : Nat → Service) (settings : Settings)
    (query : String) (next previous : Nat) : Except Failure (Controller Credential) := do
  let c ← openAddress data services settings query
  let c ← awaitSearch data services c
  let c ← turnPages data services .next next c
  turnPages data services .previous previous c

/-! ## What is printed -/

/-- A document and the end of its last line. -/
def printDocument (document : Value) : String :=
  document.pretty ++ "\n"

/-- How long the last search took, in nanoseconds, if some search has come to an end. -/
def elapsed (services : Nat → Service) (c : Controller Credential) : Option Nat :=
  if c.timed then some (services (c.searches.size - 1)).duration else none

/-- The milliseconds in a number of nanoseconds. Full seconds and the rest are converted
apart, and every operation rounds. -/
def milliseconds? (nanoseconds : Nat) : Option Binary64 := do
  let billion ← Binary64.ofNat? 1000000000
  let seconds ← Binary64.ofNat? (nanoseconds / 1000000000)
  let rest ← (← Binary64.ofNat? (nanoseconds % 1000000000)).div? billion
  (← seconds.add? rest).mul? (← Binary64.ofNat? 1000)

/-- The visible fields that offer choices, with these. -/
def choicesDocument (filters : Filters) : Value :=
  .sorted (filters.visibleSpecs.filterMap fun spec =>
    match filters.choices spec.name with
    | [] => none
    | choices => some (spec.name, .array (choices.map fun choice =>
        .sorted ((choice.count.toList.map fun count => ("count", .ofNat count.toNat)) ++
          [("label", .text choice.label), ("value", .text choice.value)]))))

/-- The document of a finished search that took some nanoseconds. -/
def searchDocument (c : Controller Credential) (page : ResultPage Credential)
    (nanoseconds : Option Nat) : Value :=
  .sorted [
    ("url", .text c.addressBar.url),
    ("values", Values.toJson c.filters.values),
    ("page", .ofNat page.page.toNat),
    ("total", .ofNat page.total.toNat),
    ("range", .ofOption (.text ·.display) (page.range c.wiring.pageSize)),
    ("records", .array (page.data.map fun record => .sorted record.members)),
    ("options", choicesDocument c.filters),
    ("elapsed_ms", .ofOption (.number ·.write) (nanoseconds.bind milliseconds?))]

/-- The listing of a finished search. -/
def searchListing (c : Controller Credential) (page : ResultPage Credential) :
    List Span :=
  Report.url c.addressBar.url ++ Report.results page c.wiring.pageSize ++
    Report.choices c.filters

/-- Searches and prints the page. -/
def searchOutcome (around : Surroundings) (data : Fixture) (settings : Settings) (styled : Bool)
    (query : String) (next previous : Nat) (json : Bool) : Outcome :=
  match finishedSearch data around.services settings query next previous with
  | .error e => .failure "" e around.files
  | .ok c =>
    match c.lastError, c.results with
    | some e, _ =>
      .failure (Span.renderAll styled (Report.error e)) .searchFailed around.files
    | none, none => .failure "" .noResult around.files
    | none, some page =>
      let stdout :=
        if json then printDocument (searchDocument c page (elapsed around.services c))
        else Span.renderAll styled (searchListing c page)
      .success stdout "" around.files

end RecordSearch.CommandLine
