import RecordSearch.Error

/-!
# Requests and answers

A request has two ends. On one side somebody waits for the answer and looks for
it now and then; on the other somebody may answer it, once, or go away without.
The side that waits may lose interest, and an answer that comes later is refused
as canceled.

A desk files requests under consecutive numbers and keeps all of them with their
answers, so that a late answer to an old request finds what has become of it. What the other
side does with a request at the moment it is filed is the desk's source: it
answers at once, holds the request for later, or goes away.
-/

namespace RecordSearch

/-- What the waiting side finds. -/
inductive RequestPoll (α : Type)
  | ready (answer : α)
  | pending
  /-- Nobody is left to answer. -/
  | abandoned
deriving DecidableEq, Repr

/-- The state between the two ends of a request. -/
structure Request (α : Type) where
  /-- The answer that was given and not refused. -/
  answer : Option α
  /-- Whether the waiting side has taken the answer. -/
  collected : Bool
  /-- Whether somebody can still answer. -/
  answerable : Bool
  /-- Whether somebody still waits. -/
  awaited : Bool
deriving DecidableEq, Repr

namespace Request

variable {α : Type}

/-- A request that waits for its answer. -/
def opened : Request α := ⟨none, false, true, true⟩

/-- A request whose answer is there already. -/
def answered (a : α) : Request α := ⟨some a, false, false, true⟩

/-- A request that nobody is going to answer. -/
def deserted : Request α := ⟨none, false, false, true⟩

/-- An answer that is there to be taken. -/
def waiting? (r : Request α) : Option α :=
  if r.awaited && !r.collected then r.answer else none

/-- Looks for the answer, and takes it if it is there. -/
def poll (r : Request α) : RequestPoll α × Request α :=
  match r.waiting? with
  | some a => (.ready a, { r with collected := true })
  | none => (if r.answerable then .pending else .abandoned, r)

/-- Gives the answer. Refused as canceled if nobody waits; not possible, hence
none, for a request that was answered or left before. -/
def complete (r : Request α) (a : α) : Option (Except SearchError Unit) × Request α :=
  if r.answerable then
    if r.awaited then (some (.ok ()), { r with answer := some a, answerable := false })
    else (some (.error .canceled), { r with answerable := false })
  else (none, r)

/-- The answering side goes away. Tells whether there was one. -/
def abandon (r : Request α) : Bool × Request α :=
  (r.answerable, { r with answerable := false })

/-- The waiting side loses interest. -/
def withdraw (r : Request α) : Request α :=
  { r with awaited := false }

end Request

/-- What a source does with a request when it is filed. -/
inductive Treatment (α : Type)
  | answer (a : α)
  | hold
  | abandon

namespace Treatment

/-- The request as it stands after its treatment. -/
def opening {α : Type} : Treatment α → Request α
  | .answer a => .answered a
  | .hold => .opened
  | .abandon => .deserted

end Treatment

/-- A file of requests for `κ` with answers of type `α`. -/
structure Desk (κ α : Type) where
  /-- The treatment of the request with a number. -/
  source : Nat → κ → Treatment α
  /-- All requests so far, by number. -/
  filed : List (κ × Request α)
  /-- How often the desk was told to release its resources. -/
  releases : Nat

namespace Desk

variable {κ α : Type}

/-- A desk without requests. -/
def ofSource (source : Nat → κ → Treatment α) : Desk κ α :=
  ⟨source, [], 0⟩

/-- The number of requests so far. -/
def size (d : Desk κ α) : Nat :=
  d.filed.length

/-- What was asked for, request by request. -/
def subjects (d : Desk κ α) : List κ :=
  d.filed.map (·.1)

/-- Files a request. Its number is the size of the desk before. -/
def file (d : Desk κ α) (subject : κ) : Desk κ α :=
  { d with filed := d.filed ++ [(subject, (d.source d.size subject).opening)] }

def request? (d : Desk κ α) (number : Nat) : Option (Request α) :=
  d.filed[number]?.map (·.2)

/-- Replaces the state of a request. -/
def put (d : Desk κ α) (number : Nat) (r : Request α) : Desk κ α :=
  { d with filed := d.filed.modify number fun entry => (entry.1, r) }

/-- Looks for the answer to a request. -/
def poll (d : Desk κ α) (number : Nat) : RequestPoll α × Desk κ α :=
  match d.request? number with
  | some r => let (seen, r) := r.poll; (seen, d.put number r)
  | none => (.abandoned, d)

/-- Answers a request; not possible, hence none, if there is no such request or
nobody on the answering side of it. -/
def complete (d : Desk κ α) (number : Nat) (a : α) :
    Option (Except SearchError Unit) × Desk κ α :=
  match d.request? number with
  | some r => let (outcome, r) := r.complete a; (outcome, d.put number r)
  | none => (none, d)

/-- Leaves a request without an answer. Tells whether that was possible. -/
def abandon (d : Desk κ α) (number : Nat) : Bool × Desk κ α :=
  match d.request? number with
  | some r => let (done, r) := r.abandon; (done, d.put number r)
  | none => (false, d)

/-- Stops waiting for a request. -/
def withdraw (d : Desk κ α) (number : Nat) : Desk κ α :=
  match d.request? number with
  | some r => d.put number r.withdraw
  | none => d

/-- Tells the desk to release its resources. -/
def release (d : Desk κ α) : Desk κ α :=
  { d with releases := d.releases + 1 }

end Desk

end RecordSearch
