import RecordSearch.Debouncer
import RecordSearch.RecentCache
import RecordSearch.Request
import RecordSearch.Settings
import RecordSearch.Text.Blank
import RecordSearch.Waiting

/-!
# Suggestions while typing

The adapter between a text input and a source of suggestions. Input is
debounced; a term that comes through asks the source once, unless its answer is
known. A new term takes the place of the one before, whose answer is from then
on refused, so an old answer can never replace a newer one.

A blank term has no suggestions and asks nobody. A failed request gives an empty
list, which is not kept: the term is asked for again when it returns.
-/

namespace RecordSearch

/-- What a request for suggestions brings. -/
abbrev ListAnswer := Except LoadFailure (List String)

/-- The request whose answer is awaited. -/
structure SuggestionFlight where
  /-- Its number at the desk. -/
  number : Nat
  term : String
deriving DecidableEq, Repr

/-- The state of a suggestion adapter. -/
structure Typeahead where
  /-- Where suggestions are asked for, by term. -/
  desk : Desk String ListAnswer
  debouncer : Debouncer
  flight : Option SuggestionFlight
  /-- The answers kept. With capacity zero there are never any. -/
  cache : RecentCache (List String)
  /-- The term of the latest list, or of the one awaited. -/
  lastTerm : Option String

namespace Typeahead

/-- An adapter that nobody has typed into. -/
def ofSource (source : Nat → String → Treatment ListAnswer) (window capacity : Nat) :
    Typeahead :=
  ⟨.ofSource source, .ofWindow window, none, .ofCapacity capacity, none⟩

/-- An adapter as an installation wants it. -/
def ofSettings (source : Nat → String → Treatment ListAnswer) (settings : Settings) :
    Typeahead :=
  ofSource source settings.debounce.toNat settings.cacheSize.toNat

/-- Tells the content of the input at a time. -/
def push (t : Typeahead) (content : String) (now : Nat) : Typeahead :=
  { t with debouncer := t.debouncer.push (Text.trim content) now }

/-- How long the input has still to rest, if there is one. -/
def timeUntilReady (t : Typeahead) (now : Nat) : Option Nat :=
  t.debouncer.timeUntilReady now

def isLoading (t : Typeahead) : Bool :=
  t.flight.isSome

def requestCount (t : Typeahead) : Nat :=
  t.desk.size

/-- Stops waiting for the answer in flight. -/
def cancelFlight (t : Typeahead) : Typeahead :=
  match t.flight with
  | some flight => { t with desk := t.desk.withdraw flight.number, flight := none }
  | none => t

/-- Starts over. The answers kept stay. -/
def reset (t : Typeahead) : Typeahead :=
  cancelFlight { t with debouncer := t.debouncer.clear, lastTerm := none }

/-- Asks the source for a term. -/
def request (t : Typeahead) (term : String) : Typeahead :=
  { t with desk := t.desk.file term, flight := some ⟨t.desk.size, term⟩ }

/-- Turns to a term: gives its list at once if it is blank or its answer was
kept, and asks the source otherwise. -/
def start (t : Typeahead) (term : String) : Option (List String) × Typeahead :=
  let t := { t.cancelFlight with lastTerm := some term }
  if term = "" then (some [], t)
  else match t.cache.peek? term with
    | some list => (some list, { t with cache := t.cache.touch term })
    | none => (none, t.request term)

/-- Picks up the answer in flight. -/
def land (t : Typeahead) : Option (List String) × Typeahead :=
  match t.flight with
  | none => (none, t)
  | some flight =>
    let (seen, desk) := t.desk.poll flight.number
    let t := { t with desk := desk }
    match seen with
    | .pending => (none, t)
    | .ready (.ok list) =>
      (some list, { t.cancelFlight with cache := t.cache.insert flight.term list })
    | .ready (.error _) | .abandoned => (some [], t.cancelFlight)

/-- One tick: turns to the input if it has rested, and gives a list when one is
ready. -/
def poll (t : Typeahead) (now : Nat) : Option (List String) × Typeahead :=
  let (released, debouncer) := t.debouncer.flush now
  let t := { t with debouncer := debouncer }
  match released with
  | none => t.land
  | some term =>
    match t.start term with
    | (some list, t) => (some list, t)
    | (none, t) => t.land

/-- Everything that can happen to an adapter. -/
inductive Action
  | push (content : String) (now : Nat)
  | poll (now : Nat)
  | reset
  | complete (number : Nat) (outcome : ListAnswer)
  | abandon (number : Nat)

/-- What an action answers. -/
inductive Reply
  | done
  | polled (list : Option (List String))
  /-- None if there was nothing to answer. -/
  | delivered (outcome : Option (Except SearchError Unit))
  | abandoned (possible : Bool)

/-- Carries out an action. -/
def perform (t : Typeahead) : Action → Reply × Typeahead
  | .push content now => (.done, t.push content now)
  | .poll now => let (list, t) := t.poll now; (.polled list, t)
  | .reset => (.done, t.reset)
  | .complete number outcome =>
    let (delivery, desk) := t.desk.complete number outcome
    (.delivered delivery, { t with desk := desk })
  | .abandon number =>
    let (possible, desk) := t.desk.abandon number
    (.abandoned possible, { t with desk := desk })

/-- The adapter after a sequence of actions. -/
def run (t : Typeahead) (actions : List Action) : Typeahead :=
  actions.foldl (fun t action => (t.perform action).2) t

/-! ## Waiting for a list -/

/-- Lists in the order in which they became ready, each under its term. -/
abbrev ReadyLists := List (String × List String)

/-- A list that has become ready, under its term. -/
def underTerm (t : Typeahead) (list : Option (List String)) : ReadyLists :=
  list.toList.map (t.lastTerm.getD "", ·)

/-- Waiting for the answer in flight at one time of the input, with a source that answers by a
function. Lists that become ready are noted. -/
def waiting (reply : String → ListAnswer) (now : Nat) : Waiting (Typeahead × ReadyLists) where
  look s :=
    let (list, t) := s.1.poll now
    (t, s.2 ++ t.underTerm list)
  awaited s := s.1.flight.map (·.number)
  serve service number s := ({ s.1 with desk := s.1.desk.serve service reply number }, s.2)

end Typeahead

end RecordSearch
