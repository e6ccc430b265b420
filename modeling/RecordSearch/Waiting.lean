import RecordSearch.Request

/-!
# Waiting for answers

A backend serves each request by a worker of its own, and when the worker is done is
not for the program to say. Whoever needs an answer looks for it, pauses, and looks
again, until nothing is awaited any more or the time is up.

What the program meets on the way is told request by request: at how many looks the
request is still open, whether its worker answers in the end or goes away, and what the
clock shows after each look. A pause is never shorter than asked for, so the clock goes
on, and that brings every wait to an end.
-/

namespace RecordSearch

/-- How long an answer is waited for, in milliseconds. -/
def requestTimeout : Nat := 5000

/-- The pause between two looks, in milliseconds. -/
def lookPause : Nat := 2

/-- How a request is served. -/
structure Service where
  /-- At how many looks it is still open. -/
  openLooks : Nat
  /-- Whether its worker answers in the end. -/
  answers : Bool
  /-- How long the answer has been waited for when a look is over, in milliseconds. -/
  waited : Nat → Nat
  waited_succ : ∀ look, waited look + lookPause ≤ waited (look + 1)
  /-- How long it takes from the request to the end by the clock, in nanoseconds. -/
  duration : Nat

namespace Service

/-- A request that is open at some looks, one pause apart, and answered then. -/
def after (openLooks duration : Nat) : Service where
  openLooks
  answers := true
  waited look := lookPause * look
  waited_succ look := Nat.le_of_eq (Nat.mul_succ lookPause look).symm
  duration

/-- A request that is answered at once. -/
def prompt : Service := after 0 0

instance : Inhabited Service := ⟨prompt⟩

/-- What has become of a request when it is looked at for the first time. -/
def treatment {α : Type} (s : Service) (a : α) : Treatment α :=
  if s.openLooks = 0 then if s.answers then .answer a else .abandon
  else .hold

/-- The request is answered before the time is up. -/
structure InTime (s : Service) : Prop where
  answers : s.answers = true
  waited : ∀ look < s.openLooks, s.waited look < requestTimeout

theorem le_waited (s : Service) (look : Nat) : lookPause * look ≤ s.waited look := by
  induction look with
  | zero => exact Nat.zero_le _
  | succ look ih => exact Nat.le_trans (Nat.add_le_add_right ih lookPause) (s.waited_succ look)

end Service

/-- The worker of a request comes to its end. -/
def Desk.serve {κ α : Type} (d : Desk κ α) (service : Service) (reply : κ → α) (number : Nat) :
    Desk κ α :=
  match d.filed[number]? with
  | some (subject, _) =>
    if service.answers then (d.complete number (reply subject)).2 else (d.abandon number).2
  | none => d

/-- How somebody waits whose state is a `σ`. -/
structure Waiting (σ : Type) where
  look : σ → σ
  /-- The number of the request that is awaited, if one is. -/
  awaited : σ → Option Nat
  /-- What the end of a worker does to the state. -/
  serve : Service → Nat → σ → σ

namespace Waiting

variable {σ : Type}

/-- Looks, after a number of looks before, until nothing is awaited. If the time is up
before that, the state at that moment is the error. -/
def lookOn (w : Waiting σ) (services : Nat → Service) (looks : Nat) (s : σ) : Except σ σ :=
  let s := w.look s
  match w.awaited s with
  | none => .ok s
  | some number =>
    if (services number).waited looks < requestTimeout then
      w.lookOn services (looks + 1)
        (if looks + 1 = (services number).openLooks then w.serve (services number) number s
        else s)
    else .error s
termination_by requestTimeout - lookPause * looks
decreasing_by
  have hpassed := (services number).le_waited looks
  rw [lookPause] at hpassed ⊢
  omega

/-- Waits until nothing is awaited. -/
def await (w : Waiting σ) (services : Nat → Service) (s : σ) : Except σ σ :=
  w.lookOn services 0 s

end Waiting

end RecordSearch
