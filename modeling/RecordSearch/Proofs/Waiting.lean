import RecordSearch.Proofs.Request
import RecordSearch.Waiting

/-!
# Where a wait ends

A look that finds a request open changes nothing, and the looks after it find what it
found. So it makes no difference how often a request is looked at before its worker is
done: the wait ends in the state to which one look after the worker's end leads, or, if
the time is up before, in the state of the first look. `Awaits` is the fixed point
behind both, and the two inductions are over the looks that are left.
-/

namespace RecordSearch

namespace Service

variable {α : Type} {service : Service}

theorem InTime.treatment_of_prompt (h : service.InTime) (hprompt : service.openLooks = 0) (a : α) :
    service.treatment a = .answer a := by
  rw [treatment, if_pos hprompt, if_pos h.answers]

theorem inTime_after {openLooks : Nat} (h : openLooks ≤ 2500) (duration : Nat) :
    (after openLooks duration).InTime := by
  refine ⟨rfl, fun look (hlook : look < openLooks) => ?_⟩
  show 2 * look < 5000
  omega

theorem treatment_of_open (h : service.openLooks ≠ 0) (a : α) : service.treatment a = .hold :=
  if_neg h

end Service

theorem Desk.serve_of_answers {κ α : Type} {d : Desk κ α} {service : Service} {reply : κ → α}
    {number : Nat} {subject : κ} {r : Request α} (hanswers : service.answers = true)
    (hentry : d.filed[number]? = some (subject, r)) :
    d.serve service reply number = (d.complete number (reply subject)).2 := by
  rw [serve, hentry]
  exact if_pos hanswers

namespace Waiting

variable {σ : Type} {w : Waiting σ} {services : Nat → Service} {s t : σ} {number looks : Nat}

theorem lookOn_of_idle (h : w.awaited (w.look s) = none) (looks : Nat) :
    w.lookOn services looks s = .ok (w.look s) := by
  rw [lookOn, h]

theorem lookOn_of_awaited (h : w.awaited (w.look s) = some number) (looks : Nat) :
    w.lookOn services looks s =
      if (services number).waited looks < requestTimeout then
        w.lookOn services (looks + 1)
          (if looks + 1 = (services number).openLooks then
            w.serve (services number) number (w.look s)
          else w.look s)
      else .error (w.look s) := by
  rw [lookOn, h]

theorem lookOn_congr (h : w.look s = w.look t) (looks : Nat) :
    w.lookOn services looks s = w.lookOn services looks t := by
  rw [lookOn, lookOn, h]

/-- A state in which a request is open, so that another look changes nothing. -/
structure Awaits (w : Waiting σ) (s : σ) (number : Nat) : Prop where
  awaited : w.awaited s = some number
  look : w.look s = s

theorem Awaits.awaited_look (h : w.Awaits s number) : w.awaited (w.look s) = some number := by
  rw [h.look]
  exact h.awaited

/-- The looks at an open request lead to its worker's end. -/
theorem Awaits.lookOn_of_inTime (h : w.Awaits s number) (hserved : (services number).InTime)
    {rest : Nat} (hrest : looks + rest + 1 = (services number).openLooks) :
    w.lookOn services looks s =
      w.lookOn services (services number).openLooks (w.serve (services number) number s) := by
  have hinTime : (services number).waited looks < requestTimeout :=
    hserved.waited looks (by omega)
  rw [lookOn_of_awaited h.awaited_look, if_pos hinTime, h.look]
  induction rest generalizing looks with
  | zero => rw [if_pos hrest, ← hrest]
  | succ rest ih =>
      have hlater : (services number).waited (looks + 1) < requestTimeout :=
        hserved.waited (looks + 1) (by omega)
      rw [if_neg (by omega), lookOn_of_awaited h.awaited_look, if_pos hlater, h.look]
      exact ih (by omega) hlater

/-- The looks at a request that stays open lead nowhere. -/
theorem Awaits.lookOn_of_late (h : w.Awaits s number) {look : Nat}
    (hopen : look < (services number).openLooks)
    (hlate : requestTimeout ≤ (services number).waited look) {rest : Nat}
    (hrest : looks + rest = look) : w.lookOn services looks s = .error s := by
  rw [lookOn_of_awaited h.awaited_look, h.look]
  split
  · next hearly =>
      induction rest generalizing looks with
      | zero =>
          rw [Nat.add_zero] at hrest
          rw [hrest] at hearly
          exact absurd hearly (Nat.not_lt.2 hlate)
      | succ rest ih =>
          rw [if_neg (by omega), lookOn_of_awaited h.awaited_look, h.look]
          split
          · next hearlier => exact ih (by omega) hearlier
          · rfl
  · rfl

/-- If the answer comes in time, the wait ends with the look that finds it. -/
theorem await_of_inTime (hlook : w.look s = t) (h : w.Awaits t number)
    (hserved : (services number).InTime) (hopen : (services number).openLooks ≠ 0) {u : σ}
    (hserve : w.serve (services number) number t = u) (hdone : w.awaited (w.look u) = none) :
    w.await services s = .ok (w.look u) := by
  obtain ⟨rest, hrest⟩ := Nat.exists_eq_succ_of_ne_zero hopen
  have hlast : 0 + rest + 1 = (services number).openLooks := by omega
  rw [await, lookOn_congr (hlook.trans h.look.symm), h.lookOn_of_inTime hserved hlast, hserve,
    lookOn_of_idle hdone]

/-- If the time is up before, it ends with what the first look found. -/
theorem await_of_late (hlook : w.look s = t) (h : w.Awaits t number) {look : Nat}
    (hopen : look < (services number).openLooks)
    (hlate : requestTimeout ≤ (services number).waited look) :
    w.await services s = .error t := by
  rw [await, lookOn_congr (hlook.trans h.look.symm)]
  exact h.lookOn_of_late hopen hlate (Nat.zero_add look)

end Waiting

end RecordSearch
