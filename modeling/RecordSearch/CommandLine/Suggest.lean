import RecordSearch.CommandLine.Outcome
import RecordSearch.Report

/-!
# The suggest command

Keystrokes are replayed at equal times on a clock of their own. Before each of them, and
once more when the last has rested, the adapter is looked at until it awaits nothing;
for these waits the clock of the keystrokes stands still. Each list is printed when it
becomes ready, so what was printed stays when a wait takes too long or the clock comes
to its end.
-/

namespace RecordSearch.CommandLine

open Typeahead (ReadyLists)

/-- What ends a replay before its time. -/
inductive Interruption
  /-- A list did not come in time. -/
  | late
  /-- The clock of the keystrokes cannot tell the next time. -/
  | clockEnded

/-- The end of the clock in milliseconds. Its seconds have 63 bits. -/
def clockEnd : Nat := (Nat.pow 2 63 - 1) * 1000

/-- Turns to what has rested at a time, and waits until nothing is awaited. -/
def drain (data : Fixture) (services : Nat → Service) (now : Nat) (s : Typeahead × ReadyLists) :
    Except (Interruption × ReadyLists) (Typeahead × ReadyLists) :=
  if now < clockEnd then
    match (Typeahead.waiting (fun term => .ok (data.suggest term)) now).await services s with
    | .ok s => .ok s
    | .error s => .error (.late, s.2)
  else .error (.clockEnded, s.2)

/-- Replays keystrokes at equal times, the first of them at `now`. Tells, beside the
adapter and the lists, when the last keystroke was. -/
def replay (data : Fixture) (services : Nat → Service) (interval : Nat)
    (s : Typeahead × ReadyLists) (now : Nat) :
    List String → Except (Interruption × ReadyLists) ((Typeahead × ReadyLists) × Nat)
  | [] => .ok (s, now)
  | key :: rest =>
    drain data services now s >>= fun s =>
      let s := (s.1.push key now, s.2)
      if rest.isEmpty then .ok (s, now)
      else replay data services interval s (now + interval) rest

/-- Replays keystrokes, and waits until the last one has rested. -/
def replayAll (data : Fixture) (services : Nat → Service) (settings : Settings) (interval : Nat)
    (keystrokes : List String) : Except (Interruption × ReadyLists) (Typeahead × ReadyLists) := do
  let t := Typeahead.ofSettings (data.suggestionSource services) settings
  let (s, last) ← replay data services interval (t, []) 0 keystrokes
  drain data services (last + settings.debounce.toNat) s

/-- Replays keystrokes, and prints the lists that became ready. The cache is made
before the first keystroke. -/
def suggestOutcome (around : Surroundings) (data : Fixture) (settings : Settings)
    (styled : Bool) (interval : Nat) (keystrokes : List String) : Outcome :=
  let listing (ready : ReadyLists) : String :=
    Span.renderAll styled (ready.flatMap fun entry => Report.suggestions entry.1 entry.2)
  match around.cacheMaking settings with
  | .beyondSizes => .broken around.breakCode "" around.files
  | .beyondMemory => .stopped around.files
  | .made =>
    match replayAll data around.services settings interval keystrokes with
    | .ok (t, ready) =>
      .success (listing ready) (toString t.requestCount ++ " request(s) issued\n") around.files
    | .error (.late, ready) => .failure (listing ready) .suggestionsLate around.files
    | .error (.clockEnded, ready) => .broken around.breakCode (listing ready) around.files

end RecordSearch.CommandLine
