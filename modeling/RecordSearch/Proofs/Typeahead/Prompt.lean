import RecordSearch.Proofs.Typeahead

/-!
# A source that answers at once

If the source answers every term when it is asked, a tick never leaves a request
behind: it asks, takes the answer and gives the list, all in one. So between two
actions nothing is in flight, nobody is left to answer, and what a tick gives is
told by the term that it turns to and by nothing else.

What a tick costs is told by the cache. It asks for a term that is not blank and
whose answer was not kept, and for no other.
-/

namespace RecordSearch.Typeahead

variable {t : Typeahead} {outcome : String → ListAnswer}

/-- The source that answers every term at once, the same term always alike. -/
def promptly (outcome : String → ListAnswer) : Nat → String → Treatment ListAnswer :=
  fun _ term => .answer (outcome term)

/-- The list that an answer amounts to. -/
def shownList : ListAnswer → List String
  | .ok list => list
  | .error _ => []

/-- The list for a term. -/
def listFor (outcome : String → ListAnswer) (term : String) : List String :=
  if term = "" then [] else shownList (outcome term)

/-- An adapter over a prompt source, between two actions. -/
structure Prompt (outcome : String → ListAnswer) (t : Typeahead) : Prop where
  source : t.desk.source = promptly outcome
  flight : t.flight = none
  /-- Nobody is left to answer. -/
  closed : ∀ entry ∈ t.desk.filed, entry.2.answerable = false
  kept : ∀ term list, t.cache.peek? term = some list → outcome term = .ok list

theorem prompt_ofSource (outcome : String → ListAnswer) (window capacity : Nat) :
    Prompt outcome (ofSource (promptly outcome) window capacity) := by
  refine ⟨rfl, rfl, ?_, ?_⟩
  · intro entry hentry
    cases hentry
  · intro term list hpeek
    cases hpeek

/-! ## Asking and taking in one -/

/-- The cache after an answer was taken. -/
def keep (cache : RecentCache (List String)) (term : String) :
    ListAnswer → RecentCache (List String)
  | .ok list => cache.insert term list
  | .error _ => cache

/-- An adapter that has asked for a term and taken the answer. -/
def fetched (outcome : String → ListAnswer) (t : Typeahead) (term : String) : Typeahead :=
  { t with
    desk := { t.desk with
      filed := t.desk.filed ++ [(term, (Request.answered (outcome term)).collect.withdraw)] }
    cache := keep t.cache term (outcome term) }

/-- An adapter that has asked for a term whose answer is there. -/
def answered (outcome : String → ListAnswer) (t : Typeahead) (term : String) : Typeahead :=
  { t with
    desk := { t.desk with filed := t.desk.filed ++ [(term, .answered (outcome term))] }
    flight := some ⟨t.desk.size, term⟩ }

theorem request_of_answer {term : String}
    (h : t.desk.source t.desk.size term = .answer (outcome term)) :
    t.request term = t.answered outcome term := by
  rw [request, Desk.file, h]
  rfl

theorem land_answered (hflight : t.flight = none) (term : String) :
    (t.answered outcome term).land =
      (some (shownList (outcome term)), t.fetched outcome term) := by
  have hentry : (t.answered outcome term).desk.filed[t.desk.size]? =
      some (term, Request.answered (outcome term)) := List.getElem?_concat_length
  have hpoll : (t.answered outcome term).desk.poll t.desk.size =
      (.ready (outcome term), (t.answered outcome term).desk.touch t.desk.size Request.collect) :=
    Desk.poll_of_awaited hentry rfl rfl
  have hdesk : ((t.answered outcome term).desk.touch t.desk.size Request.collect).withdraw
      t.desk.size = (t.fetched outcome term).desk := by
    rw [Desk.withdraw_eq_touch, Desk.touch_touch]
    exact t.desk.touch_concat term _ _
  have hasked : (t.answered outcome term).flight = some ⟨t.desk.size, term⟩ := rfl
  rw [land, hasked]
  dsimp only
  rw [hpoll]
  dsimp only
  cases hanswer : outcome term with
  | ok list =>
      dsimp only [cancelFlight]
      rw [hdesk, fetched, hanswer, hflight]
      rfl
  | error e =>
      dsimp only [cancelFlight]
      rw [hdesk, fetched, hanswer, hflight]
      rfl

/-! ## A tick -/

/-- An adapter that has released a term and not yet asked for it. -/
def turnedTo (t : Typeahead) (now : Nat) (term : String) : Typeahead :=
  { t.rested now with lastTerm := some term }

/-- What a tick does while no answer is awaited. Only a term that is not blank and whose
answer was not kept brings the source into it. -/
theorem poll_of_idle (hflight : t.flight = none) (now : Nat) :
    t.poll now =
      match t.released now with
      | none => (none, t.rested now)
      | some term =>
        if term = "" then (some [], t.turnedTo now term)
        else match t.cache.peek? term with
          | some list => (some list, { t.turnedTo now term with cache := t.cache.touch term })
          | none => ((t.turnedTo now term).request term).land := by
  have hrested : (t.rested now).flight = none := hflight
  have hcancel : (t.rested now).cancelFlight = t.rested now := by rw [cancelFlight, hrested]
  rw [poll]
  dsimp only
  rw [← released, ← rested]
  cases t.released now with
  | none =>
      dsimp only
      rw [land, hrested]
  | some term =>
      have hpeek : (t.rested now).cache.peek? term = t.cache.peek? term := rfl
      dsimp only
      rw [start, hcancel]
      dsimp only
      rw [hpeek]
      by_cases hblank : term = ""
      · rw [if_pos hblank, if_pos hblank]
        rfl
      · rw [if_neg hblank, if_neg hblank]
        cases t.cache.peek? term with
        | some list => rfl
        | none => rfl

theorem Prompt.rested (h : Prompt outcome t) (now : Nat) : Prompt outcome (t.rested now) :=
  ⟨h.source, h.flight, h.closed, h.kept⟩

/-- All that a tick can do. -/
theorem Prompt.poll_cases (h : Prompt outcome t) (now : Nat) :
    (t.released now = none ∧ t.poll now = (none, t.rested now)) ∨
    ∃ term, t.released now = some term ∧
      ((term = "" ∧ t.poll now = (some [], { t.rested now with lastTerm := some term })) ∨
        (term ≠ "" ∧ ∃ list, t.cache.peek? term = some list ∧
          t.poll now =
            (some list, { t.rested now with lastTerm := some term, cache := t.cache.touch term })) ∨
        (term ≠ "" ∧ t.cache.peek? term = none ∧
          t.poll now = (some (shownList (outcome term)),
            { (t.rested now).fetched outcome term with lastTerm := some term }))) := by
  rw [poll_of_idle h.flight]
  cases t.released now with
  | none => exact .inl ⟨rfl, rfl⟩
  | some term =>
      refine .inr ⟨term, rfl, ?_⟩
      dsimp only
      by_cases hblank : term = ""
      · rw [if_pos hblank]
        exact .inl ⟨hblank, rfl⟩
      · rw [if_neg hblank]
        cases hpeek : t.cache.peek? term with
        | some list => exact .inr (.inl ⟨hblank, list, rfl, rfl⟩)
        | none =>
            have hanswer : t.desk.source t.desk.size term = .answer (outcome term) := by
              rw [h.source]
              rfl
            refine .inr (.inr ⟨hblank, rfl, ?_⟩)
            dsimp only
            rw [request_of_answer (t := t.turnedTo now term) hanswer]
            exact land_answered (t := t.turnedTo now term) h.flight term

theorem Prompt.fetched (h : Prompt outcome t) (term : String) :
    Prompt outcome (t.fetched outcome term) where
  source := h.source
  flight := h.flight
  closed := by
    intro entry hentry
    rcases List.mem_append.1 hentry with hentry | hentry
    · exact h.closed entry hentry
    · obtain rfl := List.mem_singleton.1 hentry
      rfl
  kept := by
    intro other list hpeek
    cases hanswer : outcome term with
    | error e =>
        rw [Typeahead.fetched, hanswer] at hpeek
        exact h.kept other list hpeek
    | ok answer =>
        rw [Typeahead.fetched, hanswer] at hpeek
        rcases RecentCache.peek?_insert hpeek with ⟨rfl, rfl⟩ | ⟨_, hbefore⟩
        · exact hanswer
        · exact h.kept other list hbefore

/-- A tick turns to what the debouncer releases, and gives the list for it. -/
structure Turns (outcome : String → ListAnswer) (t : Typeahead) (now : Nat)
    (given : Option (List String) × Typeahead) : Prop where
  prompt : Prompt outcome given.2
  list : given.1 = (t.released now).map (listFor outcome)
  debouncer : given.2.debouncer = (t.debouncer.flush now).2
  lastTerm : given.2.lastTerm = (t.released now).or t.lastTerm

theorem Prompt.poll (h : Prompt outcome t) (now : Nat) : Turns outcome t now (t.poll now) := by
  have hrested := h.rested now
  rcases h.poll_cases now with ⟨hnone, heq⟩ | ⟨term, hterm, ⟨rfl, heq⟩ | ⟨hne, list, hpeek, heq⟩ |
    ⟨hne, _, heq⟩⟩
  · rw [heq]
    exact ⟨hrested, by rw [hnone]; rfl, rfl, by rw [hnone]; rfl⟩
  · rw [heq]
    exact ⟨⟨h.source, h.flight, h.closed, h.kept⟩, by rw [hterm]; rfl, rfl, by rw [hterm]; rfl⟩
  · have hlist : listFor outcome term = list := by
      rw [listFor, if_neg hne, h.kept term list hpeek]
      rfl
    rw [heq]
    refine ⟨⟨h.source, h.flight, h.closed, ?_⟩, by rw [hterm, Option.map_some, hlist], rfl,
      by rw [hterm]; rfl⟩
    intro other kept hother
    exact h.kept other kept (RecentCache.peek?_touch hother)
  · have hfetched := hrested.fetched term
    rw [heq]
    refine ⟨⟨hfetched.source, hfetched.flight, hfetched.closed, hfetched.kept⟩, ?_, rfl,
      by rw [hterm]; rfl⟩
    rw [hterm, Option.map_some, listFor, if_neg hne]

/-! ## The other actions -/

theorem Prompt.reset_eq (h : Prompt outcome t) :
    t.reset = { t with debouncer := t.debouncer.clear, lastTerm := none } := by
  rw [reset, cancelFlight, h.flight]

/-- Nobody can answer a request again. -/
theorem Prompt.complete_eq (h : Prompt outcome t) (number : Nat) (answer : ListAnswer) :
    t.desk.complete number answer = (none, t.desk) := by
  cases hentry : t.desk.filed[number]? with
  | none =>
      have hmissing : t.desk.request? number = none := by rw [Desk.request?, hentry]; rfl
      rw [Desk.complete, hmissing]
  | some entry =>
      have hclosed := h.closed entry (List.mem_of_getElem? hentry)
      have hsame : entry.2.complete answer = (none, entry.2) := by
        rw [Request.complete, hclosed, if_neg Bool.false_ne_true]
      have hdesk : (t.desk.complete number answer).2 = t.desk := by
        rw [Desk.complete_eq_touch]
        exact Desk.touch_of_fixed hentry (congrArg Prod.snd hsame)
      refine Prod.ext ?_ hdesk
      rw [Desk.complete, Desk.request?_of_entry hentry]
      dsimp only
      exact congrArg Prod.fst hsame

theorem Prompt.abandon_eq (h : Prompt outcome t) (number : Nat) :
    t.desk.abandon number = (false, t.desk) := by
  cases hentry : t.desk.filed[number]? with
  | none =>
      have hmissing : t.desk.request? number = none := by rw [Desk.request?, hentry]; rfl
      rw [Desk.abandon, hmissing]
  | some entry =>
      have hclosed := h.closed entry (List.mem_of_getElem? hentry)
      have hsame : entry.2.abandon.2 = entry.2 := Request.answering_abandon.answerable _ hclosed
      have hdesk : (t.desk.abandon number).2 = t.desk := by
        rw [Desk.abandon_eq_touch]
        exact Desk.touch_of_fixed hentry hsame
      refine Prod.ext ?_ hdesk
      rw [Desk.abandon, Desk.request?_of_entry hentry]
      exact hclosed

theorem Prompt.perform (h : Prompt outcome t) (action : Action) :
    Prompt outcome (t.perform action).2 := by
  cases action with
  | push content now => exact ⟨h.source, h.flight, h.closed, h.kept⟩
  | poll now => exact (h.poll now).prompt
  | reset =>
      show Prompt outcome t.reset
      rw [h.reset_eq]
      exact ⟨h.source, h.flight, h.closed, h.kept⟩
  | complete number answer =>
      rw [Typeahead.perform, h.complete_eq]
      exact h
  | abandon number =>
      rw [Typeahead.perform, h.abandon_eq]
      exact h

end RecordSearch.Typeahead
