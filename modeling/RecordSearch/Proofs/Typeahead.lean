import RecordSearch.Proofs.Debouncer
import RecordSearch.Proofs.Request
import RecordSearch.Proofs.Trimming
import RecordSearch.Typeahead

/-!
# The last request wins

Suggestions are asked for while the person types on, and the answers arrive in
any order or not at all. What is shown must belong to the term that was turned
to last, whatever the order.

`Orderly` is what makes it so: a request in flight is the one filed last, it is
for the last term, nobody waits for any other, and its answer has not been
taken. A tick that takes an answer therefore takes the answer to the last
request, and the answers taken one after another are the answers of the desk in
the order of the requests. The cache holds nothing else than the latest of
these for each term.

An answer to a request that the adapter has given up is refused, and one that had
come before is left lying. That nothing brings such a request back is shown apart,
for it does not depend on what else is going on.
-/

namespace RecordSearch

/-- An entry that is found after an insertion is the new one, or was there before. -/
theorem RecentCache.peek?_insert {α : Type} {cache : RecentCache α} {key other : String}
    {a b : α} (h : (cache.insert key a).peek? other = some b) :
    (other = key ∧ b = a) ∨ (other ≠ key ∧ cache.peek? other = some b) := by
  obtain ⟨entry, hfound, rfl⟩ := Option.map_eq_some_iff.1 h
  have hwhole := (List.take_prefix _ _).find?_eq_some hfound
  by_cases hkey : key = other
  · rw [List.find?_cons_of_pos (by simp [hkey])] at hwhole
    cases hwhole
    exact .inl ⟨hkey.symm, rfl⟩
  · rw [List.find?_cons_of_neg (by simp [hkey]), List.find?_filter] at hwhole
    refine .inr ⟨fun heq => hkey heq.symm, Option.map_eq_some_iff.2 ⟨entry, ?_, rfl⟩⟩
    rw [← hwhole]
    congr 1
    funext e
    by_cases he : e.1 = other
    · simp [he, Ne.symm hkey]
    · simp [he]

theorem RecentCache.peek?_touch {α : Type} {cache : RecentCache α} {key other : String} {a : α}
    (h : (cache.touch key).peek? other = some a) : cache.peek? other = some a := by
  rw [touch] at h
  split at h
  · next b hb =>
      rcases peek?_insert h with ⟨rfl, rfl⟩ | ⟨_, hbefore⟩
      · exact hb
      · exact hbefore
  · exact h

namespace Debouncer

/-- An input that waits to be released is trimmed. -/
def Trimmed (d : Debouncer) : Prop :=
  ∀ key, d.pending = some key → Text.trim key.text = key.text

theorem Trimmed.flush {d : Debouncer} (h : d.Trimmed) (now : Nat) : (d.flush now).2.Trimmed := by
  intro key hkey
  rw [flush_pending] at hkey
  split at hkey
  · cases hkey
  · exact h key hkey

theorem Trimmed.released {d : Debouncer} (h : d.Trimmed) {now : Nat} {text : String}
    (htext : (d.flush now).1 = some text) : Text.trim text = text := by
  obtain ⟨time, hpending, _⟩ := (d.flush_eq_some_iff now text).1 htext
  exact h ⟨text, time⟩ hpending

end Debouncer

/-- What a request has come to for the one who asked: a failure and a request
that was left are empty lists. -/
def Request.suggestions? (r : Request ListAnswer) : Option (List String) :=
  match r.answer with
  | some (.ok list) => some list
  | some (.error _) => some []
  | none => if r.answerable then none else some []

namespace Typeahead

variable {t t' : Typeahead}

/-! ## Answers that were taken -/

/-- The successful answer to a request, with its term, if it was taken. -/
def taken? (entry : String × Request ListAnswer) : Option (String × List String) :=
  if entry.2.collected then
    match entry.2.answer with
    | some (.ok list) => some (entry.1, list)
    | _ => none
  else none

/-- The successful answers that were taken from a desk, in the order of the requests. -/
def taken (desk : Desk String ListAnswer) : List (String × List String) :=
  desk.filed.filterMap taken?

/-- The successful answers that were taken, each with its term. -/
def answers (t : Typeahead) : List (String × List String) :=
  taken t.desk

/-- The latest answer that was taken for a term. -/
def latestAnswer? (t : Typeahead) (term : String) : Option (List String) :=
  (t.answers.reverse.find? (·.1 = term)).map (·.2)

section Taken

variable {desk : Desk String ListAnswer} {n : Nat} {term : String} {r : Request ListAnswer}

/-- What something that is done to one request makes of the answers. -/
theorem taken_touch (hentry : desk.filed[n]? = some (term, r))
    (f : Request ListAnswer → Request ListAnswer) :
    taken (desk.touch n f) = (desk.filed.take n).filterMap taken? ++
      ((taken? (term, f r)).toList ++ (desk.filed.drop (n + 1)).filterMap taken?) := by
  obtain ⟨hlt, hget⟩ := List.getElem?_eq_some_iff.1 hentry
  rw [taken, Desk.touch, List.modify_eq_take_cons_drop hlt, hget, List.filterMap_append,
    List.filterMap_cons]
  cases taken? (term, f r) with
  | none => rfl
  | some answer => rfl

theorem taken_split (hentry : desk.filed[n]? = some (term, r)) :
    taken desk = (desk.filed.take n).filterMap taken? ++
      ((taken? (term, r)).toList ++ (desk.filed.drop (n + 1)).filterMap taken?) := by
  have hsame : desk.touch n id = desk := Desk.touch_of_fixed hentry rfl
  have hsplit := taken_touch hentry id
  rw [hsame] at hsplit
  exact hsplit

theorem taken_of_fixed {f : Request ListAnswer → Request ListAnswer}
    (hfixed : ∀ term r, desk.filed[n]? = some (term, r) → taken? (term, f r) = taken? (term, r)) :
    taken (desk.touch n f) = taken desk := by
  cases hentry : desk.filed[n]? with
  | none =>
      have hmissing : desk.request? n = none := by rw [Desk.request?, hentry]; rfl
      rw [Desk.touch_of_missing hmissing]
  | some entry => rw [taken_touch hentry, hfixed _ _ hentry, ← taken_split hentry]

/-- An answer that is taken from the last request comes last. -/
theorem taken_collect (hlast : n + 1 = desk.size) (hentry : desk.filed[n]? = some (term, r))
    (hcollected : r.collected = false) :
    taken (desk.touch n Request.collect) =
      taken desk ++ (taken? (term, r.collect)).toList := by
  have hnone : taken? (term, r) = none := by simp [taken?, hcollected]
  have hrest : desk.filed.drop (n + 1) = [] :=
    List.drop_eq_nil_of_le (Nat.le_of_eq hlast.symm)
  rw [taken_touch hentry, taken_split hentry, hrest, hnone]
  simp

theorem taken_file (desk : Desk String ListAnswer) (term : String) :
    taken (desk.file term) = taken desk := by
  have hopening := (Request.opening_awaited (desk.source desk.size term)).2
  rw [taken, Desk.file, List.filterMap_append]
  simp [taken?, hopening, taken]

end Taken

theorem latestAnswer?_of_append {term other : String} {list : List String}
    (h : t'.answers = t.answers ++ [(other, list)]) :
    t'.latestAnswer? term = if term = other then some list else t.latestAnswer? term := by
  rw [latestAnswer?, h, List.reverse_append, List.reverse_singleton, List.singleton_append]
  by_cases hterm : term = other
  · rw [List.find?_cons_of_pos (by simp [hterm]), if_pos hterm]
    rfl
  · rw [List.find?_cons_of_neg (by simp [Ne.symm hterm]), if_neg hterm]
    rfl

theorem latestAnswer?_of_answers (h : t'.answers = t.answers) (term : String) :
    t'.latestAnswer? term = t.latestAnswer? term := by
  rw [latestAnswer?, h, latestAnswer?]

/-! ## Order -/

/-- Only answers that were taken are kept, and of those for a term only the latest. -/
def KeepsLatest (t : Typeahead) : Prop :=
  ∀ term list, t.cache.peek? term = some list → t.latestAnswer? term = some list

/-- The last request is for the last term, and no other counts. -/
structure Orderly (t : Typeahead) : Prop where
  trimmed : t.debouncer.Trimmed
  flight : ∀ flight, t.flight = some flight →
    t.lastTerm = some flight.term ∧ Text.trim flight.term ≠ "" ∧
      flight.number + 1 = t.desk.size ∧
      ∃ r, t.desk.filed[flight.number]? = some (flight.term, r) ∧
        r.awaited = true ∧ r.collected = false
  awaits : t.desk.AwaitsOnly (t.flight.map (·.number))
  kept : t.KeepsLatest

/-- Nothing is in flight. -/
structure Idle (t : Typeahead) : Prop where
  flight : t.flight = none
  orderly : t.Orderly

theorem idle_of_kept (htrimmed : t.debouncer.Trimmed) (hflight : t.flight = none)
    (hawaits : t.desk.AwaitsOnly none) (hkept : t.KeepsLatest) : t.Idle := by
  refine ⟨hflight, htrimmed, fun flight h => ?_, ?_, hkept⟩
  · rw [hflight] at h
    cases h
  · rw [hflight]
    exact hawaits

theorem Idle.awaits (h : t.Idle) : t.desk.AwaitsOnly none := by
  have hawaits := h.orderly.awaits
  rw [h.flight] at hawaits
  exact hawaits

/-! ## Turning away -/

theorem cancelFlight_eq (t : Typeahead) :
    t.cancelFlight = { t with desk := t.cancelFlight.desk, flight := none } := by
  rw [cancelFlight]
  split
  · rfl
  · next hnone =>
      cases t
      cases hnone
      rfl

theorem cancelFlight_answers (t : Typeahead) : t.cancelFlight.answers = t.answers := by
  rw [cancelFlight]
  split
  · rw [answers, Desk.withdraw_eq_touch]
    exact taken_of_fixed fun _ _ _ => rfl
  · rfl

theorem cancelFlight_size (t : Typeahead) : t.cancelFlight.desk.size = t.desk.size := by
  rw [cancelFlight]
  split
  · rw [Desk.withdraw_eq_touch]
    exact Desk.touch_size _ _ _
  · rfl

theorem cancelFlight_entry {flight : SuggestionFlight} (hflight : t.flight = some flight)
    {term : String} {r : Request ListAnswer}
    (hentry : t.desk.filed[flight.number]? = some (term, r)) :
    t.cancelFlight.desk.filed[flight.number]? = some (term, r.withdraw) := by
  rw [cancelFlight, hflight]
  dsimp only
  rw [Desk.withdraw_eq_touch, Desk.entry_touch hentry, if_pos rfl]

theorem idle_cancelFlight (htrimmed : t.debouncer.Trimmed)
    (hawaits : t.desk.AwaitsOnly (t.flight.map (·.number))) (hkept : t.KeepsLatest) :
    t.cancelFlight.Idle := by
  have hnobody : t.cancelFlight.desk.AwaitsOnly none := by
    rw [cancelFlight]
    cases hflight : t.flight with
    | none =>
        rw [hflight] at hawaits
        exact hawaits
    | some flight =>
        rw [hflight] at hawaits
        exact hawaits.withdraw
  have hanswers := cancelFlight_answers t
  rw [cancelFlight_eq] at hnobody hanswers ⊢
  refine idle_of_kept htrimmed rfl hnobody fun term list hpeek => ?_
  rw [latestAnswer?_of_answers hanswers]
  exact hkept term list hpeek

theorem Orderly.cancelFlight (h : t.Orderly) : t.cancelFlight.Idle :=
  idle_cancelFlight h.trimmed h.awaits h.kept

/-- An adapter that has turned to a term, if any, and awaits nothing yet. -/
def turned (t : Typeahead) (term : Option String) : Typeahead :=
  { t.cancelFlight with lastTerm := term }

theorem Orderly.turned (h : t.Orderly) (term : Option String) : (t.turned term).Idle :=
  have hidle := h.cancelFlight
  idle_of_kept hidle.orderly.trimmed hidle.flight hidle.awaits hidle.orderly.kept

theorem turned_answers (t : Typeahead) (term : Option String) :
    (t.turned term).answers = t.answers :=
  cancelFlight_answers t

/-- An adapter that has used a kept answer. -/
def usedKept (t : Typeahead) (term : String) : Typeahead :=
  { t with cache := t.cache.touch term }

theorem start_cases (t : Typeahead) (term : String) :
    (term = "" ∧ t.start term = (some [], t.turned (some term))) ∨
    (term ≠ "" ∧ ∃ list, t.cache.peek? term = some list ∧
      t.start term = (some list, (t.turned (some term)).usedKept term)) ∨
    (term ≠ "" ∧ t.cache.peek? term = none ∧
      t.start term = (none, (t.turned (some term)).request term)) := by
  have hcache : t.cancelFlight.cache = t.cache := by rw [cancelFlight_eq]
  rw [start]
  dsimp only
  by_cases hterm : term = ""
  · exact .inl ⟨hterm, if_pos hterm⟩
  · rw [if_neg hterm, ← hcache]
    cases t.cancelFlight.cache.peek? term with
    | some list => exact .inr (.inl ⟨hterm, list, rfl, rfl⟩)
    | none => exact .inr (.inr ⟨hterm, rfl, rfl⟩)

theorem Idle.usedKept (h : t.Idle) (term : String) : (t.usedKept term).Idle := by
  refine idle_of_kept h.orderly.trimmed h.flight h.awaits fun other list hpeek => ?_
  exact h.orderly.kept other list (RecentCache.peek?_touch hpeek)

theorem Idle.request (h : t.Idle) {term : String} (hlast : t.lastTerm = some term)
    (hterm : Text.trim term ≠ "") : (t.request term).Orderly where
  trimmed := h.orderly.trimmed
  flight := by
    rintro flight ⟨⟩
    have hopening := Request.opening_awaited (t.desk.source t.desk.size term)
    exact ⟨hlast, hterm, (Desk.file_size _ _).symm, _,
      (Desk.getElem?_file _ _ _).trans (if_pos rfl), hopening⟩
  awaits := h.awaits.file term
  kept := fun other list hpeek => by
    have hsame : (t.request term).answers = t.answers := taken_file t.desk term
    rw [latestAnswer?_of_answers hsame]
    exact h.orderly.kept other list hpeek

/-! ## Taking the answer -/

/-- An adapter that has taken the answer in flight. -/
def heard (t : Typeahead) (flight : SuggestionFlight) (cache : RecentCache (List String)) :
    Typeahead :=
  { t with desk := t.desk.touch flight.number Request.collect, cache }

theorem Orderly.land_cases (h : t.Orderly) :
    t.land = (none, t) ∨
    ∃ flight r, t.flight = some flight ∧ t.desk.filed[flight.number]? = some (flight.term, r) ∧
      r.collected = false ∧
      ((∃ list, r.answer = some (.ok list) ∧ t.land =
          (some list, (t.heard flight (t.cache.insert flight.term list)).cancelFlight)) ∨
        (∃ e, r.answer = some (.error e) ∧
          t.land = (some [], (t.heard flight t.cache).cancelFlight)) ∨
        (r.answer = none ∧ r.answerable = false ∧ t.land = (some [], t.cancelFlight))) := by
  cases hflight : t.flight with
  | none => exact .inl (by rw [land, hflight])
  | some flight =>
      obtain ⟨_, _, _, r, hentry, hawaited, hcollected⟩ := h.flight flight hflight
      have hpoll := Desk.poll_of_awaited hentry hawaited hcollected
      cases hanswer : r.answer with
      | some answer =>
          rw [hanswer] at hpoll
          refine .inr ⟨flight, r, rfl, hentry, hcollected, ?_⟩
          cases answer with
          | ok list =>
              refine .inl ⟨list, hanswer, ?_⟩
              simp only [land, heard, Typeahead.cancelFlight, hflight, hpoll]
          | error e =>
              refine .inr (.inl ⟨e, hanswer, ?_⟩)
              simp only [land, heard, Typeahead.cancelFlight, hflight, hpoll]
      | none =>
          rw [hanswer] at hpoll
          cases hanswerable : r.answerable with
          | true =>
              rw [hanswerable] at hpoll
              refine .inl ?_
              rw [land]
              split
              · rfl
              · next other hother =>
                  obtain rfl : other = flight := Option.some.inj (hother.symm.trans hflight)
                  rw [hpoll]
                  rfl
          | false =>
              rw [hanswerable] at hpoll
              refine .inr ⟨flight, r, rfl, hentry, hcollected,
                .inr (.inr ⟨hanswer, hanswerable, ?_⟩)⟩
              simp only [land, Typeahead.cancelFlight, hflight, hpoll, Bool.false_eq_true, if_false]

/-- A list belongs to the last term, and is what has come of the last request. -/
def Delivers (t : Typeahead) (list : List String) : Prop :=
  ∃ term r, t.lastTerm = some term ∧ Text.trim term ≠ "" ∧
    t.desk.filed.getLast? = some (term, r) ∧ r.suggestions? = some list ∧
    r.collected = r.answer.isSome

theorem delivers_cancelFlight {flight : SuggestionFlight} (hflight : t.flight = some flight)
    (hterm : t.lastTerm = some flight.term ∧ Text.trim flight.term ≠ "")
    (hlast : flight.number + 1 = t.desk.size) {r : Request ListAnswer}
    (hentry : t.desk.filed[flight.number]? = some (flight.term, r)) {list : List String}
    (hlist : r.suggestions? = some list) (hcollected : r.collected = r.answer.isSome) :
    t.cancelFlight.Delivers list := by
  have hwithdrawn := cancelFlight_entry hflight hentry
  have hsize := hlast.trans (cancelFlight_size t).symm
  refine ⟨flight.term, r.withdraw, ?_, hterm.2, Desk.getLast?_of_entry hsize hwithdrawn, hlist,
    hcollected⟩
  rw [cancelFlight_eq]
  exact hterm.1

theorem Orderly.heard (h : t.Orderly) {flight : SuggestionFlight}
    (hflight : t.flight = some flight) {r : Request ListAnswer}
    (hentry : t.desk.filed[flight.number]? = some (flight.term, r))
    (hcollected : r.collected = false) (hanswer : r.answer.isSome = true)
    {list : List String} (hlist : r.suggestions? = some list)
    {cache : RecentCache (List String)} (hkept : (t.heard flight cache).KeepsLatest) :
    (t.heard flight cache).cancelFlight.Orderly ∧
      t.answers <+: (t.heard flight cache).cancelFlight.answers ∧
      (t.heard flight cache).cancelFlight.Delivers list := by
  obtain ⟨hlastTerm, hterm, hlast, _⟩ := h.flight flight hflight
  have hawaits : (t.heard flight cache).desk.AwaitsOnly
      ((t.heard flight cache).flight.map (·.number)) :=
    h.awaits.touch flight.number fun _ hr => hr
  have hidle : (t.heard flight cache).cancelFlight.Idle :=
    idle_cancelFlight h.trimmed hawaits hkept
  have hanswers : (t.heard flight cache).answers =
      t.answers ++ (taken? (flight.term, r.collect)).toList :=
    taken_collect hlast hentry hcollected
  have hsize : flight.number + 1 = (t.heard flight cache).desk.size :=
    hlast.trans (Desk.touch_size _ _ _).symm
  have hheard : (t.heard flight cache).desk.filed[flight.number]? =
      some (flight.term, r.collect) :=
    (Desk.entry_touch hentry flight.number _).trans (by rw [if_pos rfl])
  refine ⟨hidle.orderly, ?_, ?_⟩
  · rw [cancelFlight_answers, hanswers]
    exact List.prefix_append _ _
  · have hinFlight : (t.heard flight cache).flight = some flight := hflight
    exact delivers_cancelFlight hinFlight ⟨hlastTerm, hterm⟩ hsize hheard hlist hanswer.symm

/-- Looking for the answer in flight keeps order, and what it gives belongs to the
last request. -/
theorem Orderly.land (h : t.Orderly) :
    t.land.2.Orderly ∧ t.answers <+: t.land.2.answers ∧
      ∀ list, t.land.1 = some list → t.land.2.Delivers list := by
  rcases h.land_cases with heq | ⟨flight, r, hflight, hentry, hcollected, hcases⟩
  · rw [heq]
    exact ⟨h, List.prefix_rfl, fun list hlist => by cases hlist⟩
  · obtain ⟨hlastTerm, hterm, hlast, _⟩ := h.flight flight hflight
    have hanswers (cache) : (t.heard flight cache).answers =
        t.answers ++ (taken? (flight.term, r.collect)).toList :=
      taken_collect hlast hentry hcollected
    rcases hcases with ⟨list, hanswer, heq⟩ | ⟨e, hanswer, heq⟩ | ⟨hanswer, hleft, heq⟩
    · have htaken : taken? (flight.term, r.collect) = some (flight.term, list) := by
        simp [taken?, Request.collect, hanswer]
      rw [htaken] at hanswers
      -- From now on this is the latest answer for the term, as the cache has it.
      have hkept : (t.heard flight (t.cache.insert flight.term list)).KeepsLatest := by
        intro term kept hpeek
        rw [latestAnswer?_of_append (hanswers _)]
        rcases RecentCache.peek?_insert hpeek with ⟨rfl, rfl⟩ | ⟨hne, hbefore⟩
        · exact if_pos rfl
        · rw [if_neg hne]
          exact h.kept term kept hbefore
      obtain ⟨horderly, hgrown, hdelivers⟩ := h.heard hflight hentry hcollected
        (by rw [hanswer]; rfl) (by rw [Request.suggestions?, hanswer]) hkept
      rw [heq]
      exact ⟨horderly, hgrown, fun _ hlist => Option.some.inj hlist ▸ hdelivers⟩
    · have htaken : taken? (flight.term, r.collect) = none := by
        simp [taken?, Request.collect, hanswer]
      rw [htaken, Option.toList_none, List.append_nil] at hanswers
      have hkept : (t.heard flight t.cache).KeepsLatest := by
        intro term kept hpeek
        rw [latestAnswer?_of_answers (hanswers _)]
        exact h.kept term kept hpeek
      obtain ⟨horderly, hgrown, hdelivers⟩ := h.heard hflight hentry hcollected
        (by rw [hanswer]; rfl) (by rw [Request.suggestions?, hanswer]) hkept
      rw [heq]
      exact ⟨horderly, hgrown, fun _ hlist => Option.some.inj hlist ▸ hdelivers⟩
    · have hdelivers : t.cancelFlight.Delivers [] :=
        delivers_cancelFlight hflight ⟨hlastTerm, hterm⟩ hlast hentry
          (by rw [Request.suggestions?, hanswer, hleft]; rfl) (by rw [hcollected, hanswer]; rfl)
      have hsame := cancelFlight_answers t
      rw [heq]
      exact ⟨h.cancelFlight.orderly, hsame ▸ List.prefix_rfl,
        fun _ hlist => Option.some.inj hlist ▸ hdelivers⟩

/-! ## A tick -/

/-- An adapter whose input has had its chance to be released. -/
def rested (t : Typeahead) (now : Nat) : Typeahead :=
  { t with debouncer := (t.debouncer.flush now).2 }

/-- The term that a tick turns to. -/
def released (t : Typeahead) (now : Nat) : Option String :=
  (t.debouncer.flush now).1

/-- A tick gives a list at once or looks for an answer. -/
theorem poll_cases (t : Typeahead) (now : Nat) :
    (t.released now = none ∧ t.poll now = (t.rested now).land) ∨
    (∃ term, t.released now = some term ∧
      ((term = "" ∧ t.poll now = (some [], (t.rested now).turned (some term))) ∨
        (term ≠ "" ∧ ∃ list, t.cache.peek? term = some list ∧
          t.poll now = (some list, ((t.rested now).turned (some term)).usedKept term)) ∨
        (term ≠ "" ∧ t.cache.peek? term = none ∧
          t.poll now = (((t.rested now).turned (some term)).request term).land))) := by
  rw [released, poll]
  dsimp only
  rw [← rested]
  cases (t.debouncer.flush now).1 with
  | none => exact .inl ⟨rfl, rfl⟩
  | some term =>
      refine .inr ⟨term, rfl, ?_⟩
      dsimp only
      rcases (t.rested now).start_cases term with ⟨hterm, heq⟩ | ⟨hterm, list, hpeek, heq⟩ |
        ⟨hterm, hpeek, heq⟩
      · rw [heq]
        exact .inl ⟨hterm, rfl⟩
      · rw [heq]
        exact .inr (.inl ⟨hterm, list, hpeek, rfl⟩)
      · rw [heq]
        exact .inr (.inr ⟨hterm, hpeek, rfl⟩)

theorem Orderly.rested (h : t.Orderly) (now : Nat) : (t.rested now).Orderly :=
  ⟨h.trimmed.flush now, h.flight, h.awaits, h.kept⟩

/-- Whether a tick turns to a term whose answer was kept. -/
def servesKept (t : Typeahead) (now : Nat) : Bool :=
  match t.released now with
  | none => false
  | some term => term ≠ "" && (t.cache.peek? term).isSome

/-- What a list is that a tick of `t` gives, which leads to `t'`: empty for a blank term,
the latest answer taken for the term if that was kept, and else what has come of
the last request, which was for the term. If there was an answer to this request it was
taken, so it is not one that was given up. -/
def Emits (t : Typeahead) (now : Nat) (list : List String) (t' : Typeahead) : Prop :=
  ∃ term, t'.lastTerm = some term ∧
    if Text.trim term = "" then list = []
    else if t.servesKept now then t'.latestAnswer? term = some list
    else ∃ r, t'.desk.filed.getLast? = some (term, r) ∧ r.suggestions? = some list ∧
      r.collected = r.answer.isSome

theorem Delivers.emits {now : Nat} {list : List String} (h : t'.Delivers list)
    (hserves : t.servesKept now = false) : t.Emits now list t' := by
  obtain ⟨term, r, hterm, hblank, hrequest⟩ := h
  refine ⟨term, hterm, ?_⟩
  rw [if_neg hblank, hserves]
  exact ⟨r, hrequest⟩

/-- A tick keeps order, and the list that it gives, if any, is the right one. -/
theorem Orderly.poll (h : t.Orderly) (now : Nat) :
    (t.poll now).2.Orderly ∧ t.answers <+: (t.poll now).2.answers ∧
      ∀ list, (t.poll now).1 = some list → t.Emits now list (t.poll now).2 := by
  rcases t.poll_cases now with ⟨hnone, heq⟩ | ⟨term, hterm, hcases⟩
  · obtain ⟨horderly, hgrown, hdelivers⟩ := (h.rested now).land
    have hserves : t.servesKept now = false := by rw [servesKept, hnone]
    rw [heq]
    exact ⟨horderly, hgrown, fun list hlist => (hdelivers list hlist).emits hserves⟩
  · have hturned := (h.rested now).turned (some term)
    have hanswers : ((t.rested now).turned (some term)).answers = t.answers :=
      turned_answers _ _
    have htrim : Text.trim term = term := h.trimmed.released hterm
    rcases hcases with ⟨rfl, heq⟩ | ⟨hne, list, hpeek, heq⟩ | ⟨hne, hpeek, heq⟩
    · rw [heq]
      refine ⟨hturned.orderly, hanswers ▸ List.prefix_rfl, ?_⟩
      rintro list ⟨⟩
      exact ⟨"", rfl, by rw [if_pos htrim]⟩
    · have hserves : t.servesKept now = true := by simp [servesKept, hterm, hne, hpeek]
      rw [heq]
      refine ⟨(hturned.usedKept term).orderly, hanswers ▸ List.prefix_rfl, ?_⟩
      rintro other ⟨⟩
      refine ⟨term, rfl, ?_⟩
      rw [htrim, if_neg hne, if_pos hserves]
      exact (latestAnswer?_of_answers hanswers term).trans (h.kept term list hpeek)
    · -- The request just filed may be answered at once, and is then the one that is taken.
      have hserves : t.servesKept now = false := by simp [servesKept, hterm, hpeek]
      have hblank : Text.trim term ≠ "" := htrim.symm ▸ hne
      obtain ⟨horderly, hgrown, hdelivers⟩ := (hturned.request rfl hblank).land
      have hbefore : (((t.rested now).turned (some term)).request term).answers = t.answers :=
        (taken_file _ _).trans hanswers
      rw [heq]
      exact ⟨horderly, hbefore ▸ hgrown, fun list hlist => (hdelivers list hlist).emits hserves⟩

/-! ## A run -/

/-- Answers that come or fail to come keep order, and none is taken by that. -/
theorem Orderly.answering (h : t.Orderly) (number : Nat)
    {f : Request ListAnswer → Request ListAnswer} (hf : Request.Answering f) :
    ({ t with desk := t.desk.touch number f } : Typeahead).Orderly ∧
      taken (t.desk.touch number f) = taken t.desk := by
  have hsame : taken (t.desk.touch number f) = taken t.desk := by
    refine taken_of_fixed fun term r hentry => ?_
    cases hcollected : r.collected with
    | false => simp [taken?, hf.collected, hcollected]
    | true =>
        -- Only the request in flight is awaited, and its answer was not taken.
        have hawaited : r.awaited = false := by
          by_contra hawaited
          have hnumber := h.awaits number term r hentry (eq_true_of_ne_false hawaited)
          obtain ⟨flight, hflight, rfl⟩ := Option.map_eq_some_iff.1 hnumber
          obtain ⟨_, _, _, s, hs, _, hnot⟩ := h.flight flight hflight
          cases hs.symm.trans hentry
          cases hnot.symm.trans hcollected
        simp [taken?, hf.collected, hf.answer r hawaited]
  refine ⟨⟨h.trimmed, fun flight hflight => ?_, ?_, fun term list hpeek => ?_⟩, hsame⟩
  · obtain ⟨hlastTerm, hterm, hlast, r, hentry, hawaited, hcollected⟩ := h.flight flight hflight
    have hg := hf.ite (number = flight.number)
    exact ⟨hlastTerm, hterm, hlast.trans (Desk.touch_size _ _ _).symm, _,
      Desk.entry_touch hentry number f, (hg.awaited r).trans hawaited,
      (hg.collected r).trans hcollected⟩
  · exact h.awaits.touch number fun r hr => (hf.awaited r).symm.trans hr
  · have hanswers : ({ t with desk := t.desk.touch number f } : Typeahead).answers = t.answers :=
      hsame
    rw [latestAnswer?_of_answers hanswers]
    exact h.kept term list hpeek

/-- Every action keeps order, and answers are taken one after another. -/
theorem Orderly.perform (h : t.Orderly) (action : Action) :
    (t.perform action).2.Orderly ∧ t.answers <+: (t.perform action).2.answers := by
  cases action with
  | push content now =>
      refine ⟨⟨fun key hkey => ?_, h.flight, h.awaits, h.kept⟩, List.prefix_rfl⟩
      cases hkey
      exact Text.trim_trim content
  | poll now => exact ⟨(h.poll now).1, (h.poll now).2.1⟩
  | reset =>
      have hidle : t.reset.Idle :=
        idle_cancelFlight (fun key hkey => by cases hkey) h.awaits h.kept
      have hsame : t.reset.answers = t.answers := cancelFlight_answers _
      exact ⟨hidle.orderly, hsame ▸ List.prefix_rfl⟩
  | complete number outcome =>
      have hanswering := h.answering number (Request.answering_complete outcome)
      rw [← Desk.complete_eq_touch] at hanswering
      have hsame : (t.perform (.complete number outcome)).2.answers = t.answers := hanswering.2
      exact ⟨hanswering.1, hsame ▸ List.prefix_rfl⟩
  | abandon number =>
      have hanswering := h.answering number Request.answering_abandon
      rw [← Desk.abandon_eq_touch] at hanswering
      have hsame : (t.perform (.abandon number)).2.answers = t.answers := hanswering.2
      exact ⟨hanswering.1, hsame ▸ List.prefix_rfl⟩

theorem Orderly.run (h : t.Orderly) (actions : List Action) : (t.run actions).Orderly := by
  induction actions generalizing t with
  | nil => exact h
  | cons action rest ih => exact ih (h.perform action).1

theorem idle_ofSource (source : Nat → String → Treatment ListAnswer) (window capacity : Nat) :
    (ofSource source window capacity).Idle :=
  idle_of_kept (fun key hkey => by cases hkey) rfl (Desk.awaitsOnly_ofSource source _)
    (fun term list hpeek => by cases hpeek)

/-! ## Requests that were given up -/

/-- Whether an action gives up the request in flight. -/
def turnsAway (t : Typeahead) : Action → Bool
  | .reset => true
  | .poll now => (t.released now).isSome
  | _ => false

section Unheard

variable {n : Nat} {asked : String}

theorem unheard_cancelFlight (h : t.desk.Unheard n asked) :
    t.cancelFlight.desk.Unheard n asked := by
  rw [cancelFlight]
  split
  · exact h.withdraw _
  · exact h

theorem unheard_land (h : t.desk.Unheard n asked) : t.land.2.desk.Unheard n asked := by
  rw [land]
  split
  · exact h
  · next flight _ =>
      have hpolled : ({ t with desk := (t.desk.poll flight.number).2 } : Typeahead).desk.Unheard
          n asked := h.poll flight.number
      dsimp only
      split
      · exact hpolled
      · exact unheard_cancelFlight hpolled
      · exact unheard_cancelFlight hpolled
      · exact unheard_cancelFlight hpolled

/-- Whatever a tick that turns to a term does next, it gives up the request in flight first. -/
theorem unheard_poll_of_cancelFlight {now : Nat} (hreleased : (t.released now).isSome = true)
    (h : t.cancelFlight.desk.Unheard n asked) : (t.poll now).2.desk.Unheard n asked := by
  have hturned (term : Option String) : ((t.rested now).turned term).desk.Unheard n asked := by
    have hdesk : ((t.rested now).turned term).desk = t.cancelFlight.desk := by
      rw [turned, rested, cancelFlight, cancelFlight]
      cases t.flight with
      | none => rfl
      | some flight => rfl
    rw [hdesk]
    exact h
  rcases t.poll_cases now with ⟨hnone, _⟩ | ⟨term, _, hcases⟩
  · rw [hnone] at hreleased
    cases hreleased
  · rcases hcases with ⟨_, heq⟩ | ⟨_, _, _, heq⟩ | ⟨_, _, heq⟩
    · rw [heq]
      exact hturned (some term)
    · rw [heq]
      exact hturned (some term)
    · rw [heq]
      exact unheard_land ((hturned (some term)).file term)

theorem unheard_poll (h : t.desk.Unheard n asked) (now : Nat) :
    (t.poll now).2.desk.Unheard n asked := by
  cases hreleased : t.released now with
  | some term =>
      exact unheard_poll_of_cancelFlight (by rw [hreleased]; rfl) (unheard_cancelFlight h)
  | none =>
      rcases t.poll_cases now with ⟨_, heq⟩ | ⟨term, hterm, _⟩
      · have hrested : (t.rested now).desk.Unheard n asked := h
        rw [heq]
        exact unheard_land hrested
      · cases hreleased.symm.trans hterm

theorem unheard_perform (h : t.desk.Unheard n asked) (action : Action) :
    (t.perform action).2.desk.Unheard n asked := by
  cases action with
  | push content now => exact h
  | poll now => exact unheard_poll h now
  | reset =>
      have hcleared : ({ t with debouncer := t.debouncer.clear, lastTerm := none } :
          Typeahead).desk.Unheard n asked := h
      exact unheard_cancelFlight hcleared
  | complete number outcome =>
      show (t.desk.complete number outcome).2.Unheard n asked
      rw [Desk.complete_eq_touch]
      exact h.answering number (Request.answering_complete outcome)
  | abandon number =>
      show (t.desk.abandon number).2.Unheard n asked
      rw [Desk.abandon_eq_touch]
      exact h.answering number Request.answering_abandon

theorem unheard_run (h : t.desk.Unheard n asked) (actions : List Action) :
    (t.run actions).desk.Unheard n asked := by
  induction actions generalizing t with
  | nil => exact h
  | cons action rest ih => exact ih (unheard_perform h action)

end Unheard

theorem Orderly.unheard_of_turnsAway (h : t.Orderly) {flight : SuggestionFlight}
    (hflight : t.flight = some flight) {action : Action} (hturns : t.turnsAway action = true) :
    (t.perform action).2.desk.Unheard flight.number flight.term := by
  obtain ⟨_, _, _, r, hentry, _, hcollected⟩ := h.flight flight hflight
  cases action with
  | reset =>
      have hcleared : ({ t with debouncer := t.debouncer.clear, lastTerm := none } :
          Typeahead).flight = some flight := hflight
      exact ⟨r.withdraw, cancelFlight_entry hcleared hentry, rfl, hcollected⟩
  | poll now =>
      exact unheard_poll_of_cancelFlight hturns
        ⟨r.withdraw, cancelFlight_entry hflight hentry, rfl, hcollected⟩
  | push _ _ | complete _ _ | abandon _ => cases hturns

/-! ## What can be relied on -/

/-- What holds of an adapter in every state. -/
structure LastWins (t : Typeahead) : Prop where
  loading : ∀ flight, t.flight = some flight → t.lastTerm = some flight.term
  emits : ∀ now list t', t.poll now = (some list, t') → t.Emits now list t'
  kept : t.KeepsLatest
  /-- Answers are taken one after another. -/
  answers : ∀ action, t.answers <+: (t.perform action).2.answers
  /-- The answer to a request that was given up is not taken any more, and is refused. -/
  refuses : ∀ flight action, t.flight = some flight → t.turnsAway action = true → ∀ later,
    let desk := ((t.perform action).2.run later).desk
    ∃ r, desk.filed[flight.number]? = some (flight.term, r) ∧ r.collected = false ∧
      ∀ outcome, (desk.complete flight.number outcome).1 =
        if r.answerable then some (.error .canceled) else none

/-- However keystrokes, ticks, resets and answers follow each other, the last request wins. -/
theorem lastRequest_wins (source : Nat → String → Treatment ListAnswer) (window capacity : Nat)
    (actions : List Action) : ((ofSource source window capacity).run actions).LastWins := by
  have horderly := (idle_ofSource source window capacity).orderly.run actions
  refine {
    loading := fun flight hflight => (horderly.flight flight hflight).1
    emits := fun now list t' hpoll => ?_
    kept := horderly.kept
    answers := fun action => (horderly.perform action).2
    refuses := fun flight action hflight hturns later => ?_ }
  · have hemits := (horderly.poll now).2.2 list
    rw [hpoll] at hemits
    exact hemits rfl
  · obtain ⟨r, hentry, hawaited, hcollected⟩ :=
      unheard_run (horderly.unheard_of_turnsAway hflight hturns) later
    exact ⟨r, hentry, hcollected, Desk.complete_of_not_awaited hentry hawaited⟩

/-- A second term is turned to before the first is answered. -/
example :
    let typed := (ofSource (fun _ _ => .hold) 200 8).run
      [.push " a " 0, .poll 200, .push "ab" 300, .poll 500]
    let late := typed.desk.complete 0 (.ok ["apple"])
    let answered := { typed with desk := (late.2.complete 1 (.ok ["abbot"])).2 }
    late.1 = some (.error .canceled) ∧ typed.lastTerm = some "ab" ∧
      (answered.poll 501).1 = some ["abbot"] ∧
      (answered.poll 501).2.cache.entries = [("ab", ["abbot"])] := by
  decide +kernel

end Typeahead

end RecordSearch
