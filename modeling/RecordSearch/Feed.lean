/-!
# Notification feeds

A feed carries notifications to any number of subscribers. Each subscriber has
a queue of its own, so how fast the others read makes no difference to it, and
is known by the number of subscriptions made before. A queue starts empty: what
was published earlier is not delivered.

Closing a feed ends publication. What is queued by then can still be read, and
only after it does the subscriber learn that nothing more will come.
-/

namespace RecordSearch

/-- What a subscriber finds when it looks. -/
inductive FeedPoll (α : Type)
  | ready (item : α)
  /-- Nothing yet. -/
  | pending
  /-- Nothing any more. -/
  | closed
deriving DecidableEq, Repr

/-- The queues of all subscriptions ever made, none for one that was dropped. -/
structure Feed (α : Type) where
  queues : List (Option (List α))
  closed : Bool
deriving DecidableEq, Repr

namespace Feed

variable {α : Type}

def empty : Feed α := ⟨[], false⟩

instance : Inhabited (Feed α) := ⟨empty⟩

/-- The items waiting for a subscriber; none for one that was dropped. -/
def waiting (f : Feed α) (sub : Nat) : List α :=
  (f.queues[sub]?.join).getD []

/-- Adds a subscriber and tells its number. -/
def subscribe (f : Feed α) : Nat × Feed α :=
  (f.queues.length, { f with queues := f.queues ++ [some []] })

/-- Drops a subscriber together with its queue. -/
def unsubscribe (f : Feed α) (sub : Nat) : Feed α :=
  { f with queues := f.queues.modify sub fun _ => none }

/-- Queues an item for every subscriber. -/
def publish (f : Feed α) (item : α) : Feed α :=
  { f with queues := f.queues.map fun queue => queue.map (· ++ [item]) }

/-- Takes the first `n` items out of a subscriber's queue. -/
def advance (f : Feed α) (sub n : Nat) : Feed α :=
  { f with queues := f.queues.modify sub fun queue => queue.map (·.drop n) }

/-- Takes the next item, or tells why there is none. -/
def poll (f : Feed α) (sub : Nat) : FeedPoll α × Feed α :=
  match f.waiting sub with
  | item :: _ => (.ready item, f.advance sub 1)
  | [] => (if f.closed then .closed else .pending, f)

/-- Takes the next item, if any. -/
def next? (f : Feed α) (sub : Nat) : Option α × Feed α :=
  ((f.waiting sub).head?, f.advance sub 1)

/-- Takes all items that wait for a subscriber. -/
def drain (f : Feed α) (sub : Nat) : List α × Feed α :=
  (f.waiting sub, f.advance sub (f.waiting sub).length)

/-- Ends publication. -/
def close (f : Feed α) : Feed α :=
  { f with closed := true }

/-- What the subscribers of a feed can do. -/
inductive Action
  | subscribe
  | unsubscribe (sub : Nat)
  | poll (sub : Nat)
  | next (sub : Nat)
  | drain (sub : Nat)
deriving DecidableEq, Repr

/-- What a subscriber gets for an action. -/
inductive Reply (α : Type)
  | subscribed (sub : Nat)
  | unsubscribed
  | polled (seen : FeedPoll α)
  | next (item : Option α)
  | drained (items : List α)

/-- Carries out an action. -/
def perform (f : Feed α) : Action → Reply α × Feed α
  | .subscribe => let (sub, f) := f.subscribe; (.subscribed sub, f)
  | .unsubscribe sub => (.unsubscribed, f.unsubscribe sub)
  | .poll sub => let (seen, f) := f.poll sub; (.polled seen, f)
  | .next sub => let (item, f) := f.next? sub; (.next item, f)
  | .drain sub => let (items, f) := f.drain sub; (.drained items, f)

end Feed

end RecordSearch
