import RecordSearch.Proofs.Typeahead.Prompt
import RecordSearch.Proofs.Typeahead.Waiting
import RecordSearch.Proofs.Waiting

/-!
# A source that answers in time

Over a source that answers at once one tick does everything. Over any other a program has
to wait until nothing is in flight, and if the answers come in time, the wait ends where
the one tick would have ended: in the same state, with the same list under the same term.

A wait is longer than a tick only if its first tick asks the source and finds the request
open. That tick has used up the input, so the ones after it release nothing and change
nothing. When the answer comes, the state is the one in which a prompt source would have
left the tick, and the next tick takes the answer.
-/

namespace RecordSearch

/-- What a flush leaves has nothing to release at the same time. -/
theorem Debouncer.flush_flush (d : Debouncer) (now : Nat) :
    (d.flush now).2.flush now = (none, (d.flush now).2) := by
  refine flush_of_not_ready ?_
  rcases d.flush_eq now with ⟨hearly, heq⟩ | ⟨key, _, _, heq⟩
  · rw [heq]
    exact hearly
  · rw [heq]
    split
    · exact isReady_of_no_pending rfl now
    · exact isReady_of_no_pending rfl now

namespace Typeahead

variable {t u : Typeahead} {services : Nat → Service} {outcome : String → ListAnswer} {now : Nat}
  {ready : ReadyLists}

/-- The source that serves every term by a worker of its own. -/
def served (services : Nat → Service) (outcome : String → ListAnswer) :
    Nat → String → Treatment ListAnswer :=
  fun number term => (services number).treatment (outcome term)

/-- The adapter as it is if it asks another source. -/
def asking (t : Typeahead) (source : Nat → String → Treatment ListAnswer) : Typeahead :=
  { t with desk := { t.desk with source } }

/-- A tick at a time at which there is nothing to release. -/
theorem poll_of_unreleased (h : t.debouncer.flush now = (none, t.debouncer)) :
    t.poll now = t.land := by
  rw [poll, h]

/-! ## A request that is open -/

theorem land_request_of_hold {term : String}
    (hhold : t.desk.source t.desk.size term = .hold) :
    (t.request term).land = (none, t.request term) := by
  have hentry : (t.desk.file term).filed[t.desk.size]? = some (term, .opened) := by
    rw [Desk.getElem?_file, if_pos rfl, hhold]
    rfl
  have hpoll := Desk.poll_of_pending
    (congrArg Prod.fst (Desk.poll_of_awaited hentry rfl rfl))
  rw [land, request]
  dsimp only
  rw [hpoll]

/-- The worker's answer leaves the adapter as if it had been there from the beginning. -/
theorem serve_request_of_hold {service : Service} (hserved : service.InTime) {term : String}
    (hhold : t.desk.source t.desk.size term = .hold) (ready : ReadyLists) :
    (waiting outcome now).serve service t.desk.size (t.request term, ready) =
      (t.answered outcome term, ready) := by
  have hentry : (t.desk.file term).filed[t.desk.size]? = some (term, .opened) := by
    rw [Desk.getElem?_file, if_pos rfl, hhold]
    rfl
  have hdesk : (t.desk.file term).serve service outcome t.desk.size =
      (t.answered outcome term).desk := by
    rw [Desk.serve_of_answers hserved.answers hentry, Desk.complete_eq_touch, Desk.touch_file,
      hhold]
    rfl
  show (({ t.request term with desk := (t.desk.file term).serve service outcome t.desk.size } :
    Typeahead), ready) = _
  rw [hdesk]
  rfl

/-! ## A wait -/

theorem look_eq {list : Option (List String)} (hpoll : t.poll now = (list, u)) :
    (waiting outcome now).look (t, ready) = (u, ready ++ u.underTerm list) := by
  rw [waiting]
  dsimp only
  rw [hpoll]

theorem await_of_once {list : Option (List String)} (hpoll : t.poll now = (list, u))
    (hflight : u.flight = none) :
    (waiting outcome now).await services (t, ready) = .ok (u, ready ++ u.underTerm list) := by
  have hlook : (waiting outcome now).look (t, ready) = (u, ready ++ u.underTerm list) :=
    look_eq hpoll
  rw [← hlook]
  refine Waiting.lookOn_of_idle ?_ 0
  rw [hlook]
  exact congrArg (Option.map SuggestionFlight.number) hflight

/-- The request that the first tick leaves open is answered, and the list taken. -/
theorem await_of_hold {term : String} (hpoll : t.poll now = (u.request term).land)
    (hunreleased : u.debouncer.flush now = (none, u.debouncer)) (hflight : u.flight = none)
    (hhold : u.desk.source u.desk.size term = .hold)
    (hserved : (services u.desk.size).InTime) (hopen : (services u.desk.size).openLooks ≠ 0) :
    (waiting outcome now).await services (t, ready) =
      .ok (u.fetched outcome term,
        ready ++ (u.fetched outcome term).underTerm (some (shownList (outcome term)))) := by
  have hland := land_request_of_hold hhold
  have hask : (waiting outcome now).look (t, ready) = (u.request term, ready) := by
    rw [look_eq (hpoll.trans hland)]
    exact congrArg (Prod.mk _) (List.append_nil _)
  have hawaits : (waiting outcome now).Awaits (u.request term, ready) u.desk.size := by
    refine ⟨rfl, ?_⟩
    rw [look_eq ((poll_of_unreleased (t := u.request term) hunreleased).trans hland)]
    exact congrArg (Prod.mk _) (List.append_nil _)
  have htake : (u.answered outcome term).poll now =
      (some (shownList (outcome term)), u.fetched outcome term) :=
    (poll_of_unreleased (t := u.answered outcome term) hunreleased).trans
      (land_answered hflight term)
  rw [Waiting.await_of_inTime hask hawaits hserved hopen
    (serve_request_of_hold hserved hhold ready) ?_, look_eq htake]
  rw [look_eq htake]
  exact congrArg (Option.map SuggestionFlight.number) hflight

/-- What a wait over a source that answers in time comes to is the one tick over the source
that answers the same at once. -/
theorem Prompt.await_asking (h : Prompt outcome t) (hserved : ∀ number, (services number).InTime)
    (now : Nat) (ready : ReadyLists) :
    (waiting outcome now).await services (t.asking (served services outcome), ready) =
      .ok ((t.poll now).2.asking (served services outcome),
        ready ++ (t.poll now).2.underTerm (t.poll now).1) := by
  have hflight : (t.asking (served services outcome)).flight = none := h.flight
  have hpoll : (t.asking (served services outcome)).poll now = _ := poll_of_idle hflight now
  have hreleased : (t.asking (served services outcome)).released now = t.released now := rfl
  have hkept : (t.asking (served services outcome)).cache = t.cache := rfl
  rw [hreleased, hkept] at hpoll
  rcases h.poll_cases now with ⟨hnone, htick⟩ | ⟨term, hterm, ⟨hblank, htick⟩ |
    ⟨hne, list, hpeek, htick⟩ | ⟨hne, hpeek, htick⟩⟩
  · rw [hnone] at hpoll
    rw [htick]
    exact await_of_once hpoll hflight
  · rw [hterm] at hpoll
    dsimp only at hpoll
    rw [if_pos hblank] at hpoll
    rw [htick]
    exact await_of_once hpoll hflight
  · rw [hterm] at hpoll
    dsimp only at hpoll
    rw [if_neg hne, hpeek] at hpoll
    rw [htick]
    exact await_of_once hpoll hflight
  · -- The source is asked, and what a prompt one answers is there after the wait.
    rw [hterm] at hpoll
    dsimp only at hpoll
    rw [if_neg hne, hpeek] at hpoll
    have hasked : (t.asking (served services outcome)).poll now =
        (((t.turnedTo now term).asking (served services outcome)).request term).land := hpoll
    by_cases hopen : (services t.desk.size).openLooks = 0
    · rw [request_of_answer (t := (t.turnedTo now term).asking (served services outcome))
        ((hserved t.desk.size).treatment_of_prompt hopen _),
        land_answered (t := (t.turnedTo now term).asking (served services outcome)) h.flight]
        at hasked
      rw [htick]
      exact await_of_once hasked h.flight
    · rw [htick]
      exact await_of_hold hasked (t.debouncer.flush_flush now) h.flight
        (Service.treatment_of_open hopen _) (hserved t.desk.size) hopen

end Typeahead

end RecordSearch
