import Mathlib.Data.List.Basic
import RecordSearch.Feed

/-!
# What a subscriber of a feed sees

Each subscriber has a queue of its own, and everything here comes down to what
the operations of a feed do to one queue. Publication adds at its back, reading
takes from its front, and nothing else that happens at the feed reaches it: not
the readings of others, not their arrivals, and not their leaving.

So the items that a subscriber was given, followed by those that wait for it,
are what was published since it came. `Owes` is the other half of what it can
see: the three ways of reading all find the items that wait, in order, and only
when there are none does it matter whether the feed is closed.
-/

namespace RecordSearch.Feed

variable {α : Type}

/-- Whether a number belongs to a subscriber that has not left. -/
def Subscribed (f : Feed α) (sub : Nat) : Prop :=
  ∃ queue, f.queues[sub]? = some (some queue)

/-- The subscriber that reads by an action. -/
def Action.reader? : Action → Option Nat
  | .poll sub | .next sub | .drain sub => some sub
  | .subscribe | .unsubscribe _ => none

/-- The items in a reply. -/
def Reply.items : Reply α → List α
  | .polled (.ready item) => [item]
  | .next item => item.toList
  | .drained items => items
  | _ => []

/-- The items that a subscriber is given by an action. -/
def given (f : Feed α) (sub : Nat) (action : Action) : List α :=
  if action.reader? = some sub then (f.perform action).1.items else []

/-- What a subscriber finds to which some items are due. -/
structure Owes (f : Feed α) (sub : Nat) (due : List α) : Prop where
  poll : (f.poll sub).1 = match due with
    | item :: _ => .ready item
    | [] => if f.closed then .closed else .pending
  next : (f.next? sub).1 = due.head?
  drain : (f.drain sub).1 = due

theorem owes_waiting (f : Feed α) (sub : Nat) : f.Owes sub (f.waiting sub) := by
  refine ⟨?_, rfl, rfl⟩
  rw [poll]
  cases f.waiting sub with
  | nil => rfl
  | cons item rest => rfl

/-! ## One queue -/

theorem waiting_advance (f : Feed α) (sub n other : Nat) :
    (f.advance sub n).waiting other =
      if sub = other then (f.waiting other).drop n else f.waiting other := by
  rw [waiting, waiting, advance, List.getElem?_modify]
  by_cases hsub : sub = other
  · cases f.queues[other]? with
    | none => simp
    | some queue => cases queue <;> simp [hsub]
  · simp [hsub]

theorem drain_of_nil {f : Feed α} {sub : Nat} (h : f.waiting sub = []) : f.drain sub = ([], f) := by
  have hqueues : f.queues.modify sub (fun queue => queue.map (·.drop 0)) = f.queues := by
    refine List.ext_getElem? fun n => ?_
    rw [List.getElem?_modify]
    cases f.queues[n]? with
    | none => rfl
    | some queue => split <;> cases queue <;> rfl
  rw [drain, h, advance, List.length_nil, hqueues]

theorem waiting_subscribe (f : Feed α) (sub : Nat) :
    f.subscribe.2.waiting sub = f.waiting sub := by
  rw [waiting, waiting, subscribe, List.getElem?_append]
  split
  · rfl
  · next hge =>
      rw [List.getElem?_eq_none (Nat.le_of_not_lt hge)]
      cases h : [some ([] : List α)][sub - f.queues.length]? with
      | none => rfl
      | some queue =>
          obtain rfl := List.mem_singleton.1 (List.mem_of_getElem? h)
          rfl

theorem waiting_unsubscribe_of_ne {sub other : Nat} (h : other ≠ sub) (f : Feed α) :
    (f.unsubscribe other).waiting sub = f.waiting sub := by
  have hqueue : (f.unsubscribe other).queues[sub]? = f.queues[sub]? :=
    List.getElem?_modify_ne _ _ h
  rw [waiting, hqueue, waiting]

theorem Subscribed.waiting_publish {f : Feed α} {sub : Nat} (h : f.Subscribed sub) (item : α) :
    (f.publish item).waiting sub = f.waiting sub ++ [item] := by
  obtain ⟨queue, hqueue⟩ := h
  simp [waiting, publish, List.getElem?_map, hqueue]

theorem Subscribed.publish {f : Feed α} {sub : Nat} (h : f.Subscribed sub) (item : α) :
    (f.publish item).Subscribed sub := by
  obtain ⟨queue, hqueue⟩ := h
  refine ⟨queue ++ [item], ?_⟩
  simp [Feed.publish, List.getElem?_map, hqueue]

theorem Subscribed.publishAll {f : Feed α} {sub : Nat} (h : f.Subscribed sub) (news : List α) :
    (news.foldl Feed.publish f).Subscribed sub ∧
      (news.foldl Feed.publish f).waiting sub = f.waiting sub ++ news := by
  induction news generalizing f with
  | nil => exact ⟨h, (List.append_nil _).symm⟩
  | cons item rest ih =>
      obtain ⟨hstill, hwaiting⟩ := ih (h.publish item)
      refine ⟨hstill, ?_⟩
      rw [List.foldl_cons, hwaiting, h.waiting_publish, List.append_assoc, List.singleton_append]

/-- A new subscriber has the number that it is told, and nothing waits for it. -/
theorem subscribed_subscribe (f : Feed α) :
    f.subscribe.2.Subscribed f.subscribe.1 ∧ f.subscribe.2.waiting f.subscribe.1 = [] := by
  have hqueue : f.subscribe.2.queues[f.subscribe.1]? = some (some []) := by
    rw [subscribe]
    exact List.getElem?_concat_length
  refine ⟨⟨[], hqueue⟩, ?_⟩
  rw [waiting, hqueue]
  rfl

/-! ## What subscribers do -/

theorem Subscribed.advance {f : Feed α} {sub : Nat} (h : f.Subscribed sub) (other n : Nat) :
    (f.advance other n).Subscribed sub := by
  obtain ⟨queue, hqueue⟩ := h
  refine ⟨if other = sub then queue.drop n else queue, ?_⟩
  rw [Feed.advance, List.getElem?_modify, hqueue]
  split
  · rfl
  · rfl

/-- A subscriber stays until it leaves by itself. -/
theorem Subscribed.perform {f : Feed α} {sub : Nat} (h : f.Subscribed sub) {action : Action}
    (hstays : action ≠ .unsubscribe sub) : (f.perform action).2.Subscribed sub := by
  cases action with
  | subscribe =>
      obtain ⟨queue, hqueue⟩ := h
      obtain ⟨hlt, _⟩ := List.getElem?_eq_some_iff.1 hqueue
      exact ⟨queue, (List.getElem?_append_left hlt).trans hqueue⟩
  | unsubscribe other =>
      obtain ⟨queue, hqueue⟩ := h
      have hother : other ≠ sub := fun heq => hstays (congrArg Action.unsubscribe heq)
      exact ⟨queue, (List.getElem?_modify_ne _ _ hother).trans hqueue⟩
  | poll other =>
      show (f.poll other).2.Subscribed sub
      rw [Feed.poll]
      split
      · exact h.advance other 1
      · exact h
  | next other => exact h.advance other 1
  | drain other => exact h.advance other _

/-- What a subscriber is given was the front of its queue, and the rest of the
queue waits on, whatever others do. -/
theorem given_append_waiting (f : Feed α) {sub : Nat} {action : Action}
    (hstays : action ≠ .unsubscribe sub) :
    f.given sub action ++ (f.perform action).2.waiting sub = f.waiting sub := by
  cases action with
  | subscribe => exact waiting_subscribe f sub
  | unsubscribe other =>
      have hother : other ≠ sub := fun heq => hstays (congrArg Action.unsubscribe heq)
      exact waiting_unsubscribe_of_ne hother f
  | poll other =>
      show (if some other = some sub then (Reply.polled (f.poll other).1).items else []) ++
        (f.poll other).2.waiting sub = f.waiting sub
      rw [Feed.poll]
      cases hwaiting : f.waiting other with
      | nil => cases f.closed <;> simp [Reply.items]
      | cons item rest =>
          dsimp only
          rw [waiting_advance]
          by_cases hother : other = sub
          · subst hother
            simp [Reply.items, hwaiting]
          · simp [hother]
  | next other =>
      show (if some other = some sub then (Reply.next (f.next? other).1).items else []) ++
        (f.advance other 1).waiting sub = f.waiting sub
      rw [waiting_advance]
      by_cases hother : other = sub
      · subst hother
        cases hwaiting : f.waiting other <;> simp [Reply.items, next?, hwaiting]
      · simp [hother]
  | drain other =>
      show (if some other = some sub then (Reply.drained (f.drain other).1).items else []) ++
        (f.advance other (f.waiting other).length).waiting sub = f.waiting sub
      rw [waiting_advance]
      by_cases hother : other = sub
      · subst hother
        simp [Reply.items, drain]
      · simp [hother]

theorem perform_closed (f : Feed α) (action : Action) :
    (f.perform action).2.closed = f.closed := by
  cases action with
  | poll sub =>
      show (f.poll sub).2.closed = f.closed
      rw [poll]
      split
      · rfl
      · rfl
  | subscribe | unsubscribe _ | next _ | drain _ => rfl

end RecordSearch.Feed
