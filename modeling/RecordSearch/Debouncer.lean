/-!
# Waiting until typing rests

A debouncer holds the latest input and releases it once nothing has been typed
for the length of its window. An input that is released but equals the one
released last is swallowed, so typing a word again asks for nothing new.

Times are milliseconds on a clock that the caller reads. A time before the last
input counts as the time of that input.
-/

namespace RecordSearch

/-- An input and the time it was made. -/
structure Keystroke where
  text : String
  time : Nat
deriving DecidableEq, Repr

/-- The state of a debouncer. -/
structure Debouncer where
  /-- How long typing must rest, in milliseconds. -/
  window : Nat
  /-- The latest input, unless it was released. -/
  pending : Option Keystroke
  lastReleased : Option String
deriving DecidableEq, Repr

namespace Debouncer

/-- A debouncer without input. -/
def ofWindow (window : Nat) : Debouncer :=
  ⟨window, none, none⟩

/-- Records an input, in place of the one before. -/
def push (d : Debouncer) (text : String) (now : Nat) : Debouncer :=
  { d with pending := some ⟨text, now⟩ }

def hasPending (d : Debouncer) : Bool :=
  d.pending.isSome

/-- Whether there is an input that has rested for the window. -/
def isReady (d : Debouncer) (now : Nat) : Bool :=
  match d.pending with
  | some key => d.window ≤ now - key.time
  | none => false

/-- How long the input has still to rest, if there is one. -/
def timeUntilReady (d : Debouncer) (now : Nat) : Option Nat :=
  d.pending.map fun key => d.window - (now - key.time)

/-- Releases the input if it is ready, and swallows a repetition. -/
def flush (d : Debouncer) (now : Nat) : Option String × Debouncer :=
  match d.pending with
  | none => (none, d)
  | some key =>
    if d.isReady now then
      if d.lastReleased = some key.text then (none, { d with pending := none })
      else (some key.text, { d with pending := none, lastReleased := some key.text })
    else (none, d)

/-- Forgets the input and the last release. -/
def clear (d : Debouncer) : Debouncer :=
  ofWindow d.window

/-- Everything that can be done to a debouncer. -/
inductive Action
  | push (text : String) (now : Nat)
  | flush (now : Nat)
  | clear
deriving DecidableEq, Repr

/-- Carries out an action; only a flush may release something. -/
def perform (d : Debouncer) : Action → Option String × Debouncer
  | .push text now => (none, d.push text now)
  | .flush now => d.flush now
  | .clear => (none, d.clear)

/-- The debouncer after a sequence of actions. -/
def run (d : Debouncer) (actions : List Action) : Debouncer :=
  actions.foldl (fun d action => (d.perform action).2) d

end Debouncer

end RecordSearch
