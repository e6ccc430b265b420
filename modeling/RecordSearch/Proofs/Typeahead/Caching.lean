import Mathlib.Data.List.Dedup
import RecordSearch.Proofs.Typeahead.Prompt

/-!
# Nobody can tell that answers are kept

Two adapters get the same keystrokes, ticks and resets over the same source, and
one of them keeps answers while the other does not. A term that returns takes
different ways through them: the first finds the list and is done, the second asks
again, waits, and takes the answer. All that shows is nevertheless the same, as
long as the source answers at once and the same term always alike.

`Mirrors` is what the two have in common between two actions. It needs no more of
the cache than that it holds true answers, whatever was dropped from it. What the
cache saves is another matter: nothing is dropped as long as there is room for all
terms that were asked for, and then `Remembers` says that an answer, once there,
is asked for no more.
-/

namespace RecordSearch

namespace RecentCache

variable {α : Type} {cache : RecentCache α} {key other : String} {a : α}

/-- What entries are kept under, the latest first. -/
def keys (cache : RecentCache α) : List String :=
  cache.entries.map (·.1)

theorem peek?_eq_none_iff : cache.peek? key = none ↔ key ∉ cache.keys := by
  rw [peek?, Option.map_eq_none_iff, List.find?_eq_none, keys, List.mem_map]
  constructor
  · rintro hnone ⟨entry, hentry, rfl⟩
    exact hnone entry hentry (decide_eq_true rfl)
  · intro hmissing entry hentry hkey
    exact hmissing ⟨entry, hentry, of_decide_eq_true hkey⟩

theorem keys_insert (cache : RecentCache α) (key : String) (a : α) :
    (cache.insert key a).keys = (key :: cache.keys.filter (· ≠ key)).take cache.capacity := by
  rw [keys, insert, List.map_take, List.map_cons, keys, List.filter_map]
  rfl

theorem nodup_insert (h : cache.keys.Nodup) (key : String) (a : α) :
    (cache.insert key a).keys.Nodup := by
  rw [keys_insert]
  refine List.Nodup.sublist (List.take_sublist _ _) (List.nodup_cons.2 ⟨?_, h.filter _⟩)
  simp

theorem mem_keys_insert (h : other ∈ (cache.insert key a).keys) :
    other = key ∨ other ∈ cache.keys := by
  rw [keys_insert] at h
  rcases List.mem_cons.1 (List.mem_of_mem_take h) with hkey | hbefore
  · exact .inl hkey
  · exact .inr (List.mem_filter.1 hbefore).1

/-- There is room for an entry if there is room for every key in a list. -/
theorem room_of_subset {terms : List String} (hnodup : cache.keys.Nodup)
    (hsub : cache.keys ⊆ terms) (hkey : key ∈ terms) :
    (key :: cache.keys.filter (· ≠ key)).length ≤ terms.dedup.length := by
  have hdistinct : (key :: cache.keys.filter (· ≠ key)).Nodup :=
    List.nodup_cons.2 ⟨by simp, hnodup.filter _⟩
  refine hdistinct.length_le_of_subset ?_
  intro term hterm
  rw [List.mem_dedup]
  rcases List.mem_cons.1 hterm with rfl | hterm
  · exact hkey
  · exact hsub (List.mem_filter.1 hterm).1

/-- With room for it, an entry displaces no other. -/
theorem mem_keys_insert_of_room
    (hroom : (key :: cache.keys.filter (· ≠ key)).length ≤ cache.capacity)
    (h : other = key ∨ other ∈ cache.keys) : other ∈ (cache.insert key a).keys := by
  rw [keys_insert, List.take_of_length_le hroom]
  by_cases hkey : other = key
  · rw [hkey]
    exact List.mem_cons_self
  · exact List.mem_cons_of_mem _ (List.mem_filter.2 ⟨h.resolve_left hkey, by simpa using hkey⟩)

theorem insert_ofCapacity_zero (key : String) (a : α) :
    (ofCapacity 0 : RecentCache α).insert key a = ofCapacity 0 := by
  rw [insert, ofCapacity, List.take_zero]

end RecentCache

namespace Typeahead

variable {t kept bare : Typeahead} {outcome : String → ListAnswer}

/-! ## What shows -/

/-- What can be seen of an adapter along a run: after each action its reply, the last term and
whether a list is awaited. -/
def transcript (t : Typeahead) : List Action → List (Reply × Option String × Bool)
  | [] => []
  | action :: rest =>
    ((t.perform action).1, (t.perform action).2.lastTerm, (t.perform action).2.isLoading) ::
      (t.perform action).2.transcript rest

/-- The terms that were typed in a run. -/
def typed (actions : List Action) : List String :=
  actions.filterMap fun
    | .push content _ => some (Text.trim content)
    | _ => none

/-- The term that a tick asks the source for. -/
def asks? (t : Typeahead) (now : Nat) : Option String :=
  (t.released now).filter fun term => term ≠ "" ∧ t.cache.peek? term = none

theorem asks?_sublist (t : Typeahead) (now : Nat) :
    (t.asks? now).toList.Sublist ((t.released now).toList.filter (· ≠ "")) := by
  rw [asks?]
  cases t.released now with
  | none => exact List.Sublist.refl _
  | some term =>
      rw [Option.filter_some]
      split
      · next hasks =>
          have hterm : term ≠ "" := (of_decide_eq_true hasks).1
          simp [hterm]
      · exact List.nil_sublist _

theorem asks?_of_bare (t : Typeahead) (hcache : t.cache = .ofCapacity 0) (now : Nat) :
    (t.asks? now).toList = (t.released now).toList.filter (· ≠ "") := by
  have hmissing : ∀ term, t.cache.peek? term = none := by
    intro term
    rw [hcache]
    rfl
  rw [asks?]
  cases t.released now with
  | none => rfl
  | some term =>
      by_cases hblank : term = ""
      · simp [Option.filter_some, hblank]
      · simp [Option.filter_some, hblank, hmissing]

theorem fetched_subjects (outcome : String → ListAnswer) (t : Typeahead) (term : String) :
    (t.fetched outcome term).desk.subjects = t.desk.subjects ++ [term] := by
  rw [Desk.subjects, Desk.subjects, fetched, List.map_append, List.map_singleton]

theorem Prompt.poll_subjects (h : Prompt outcome t) (now : Nat) :
    (t.poll now).2.desk.subjects = t.desk.subjects ++ (t.asks? now).toList := by
  rcases h.poll_cases now with ⟨hnone, heq⟩ | ⟨term, hterm, ⟨hblank, heq⟩ | ⟨_, list, hpeek, heq⟩ |
    ⟨hne, hpeek, heq⟩⟩
  · rw [heq, asks?, hnone]
    exact (List.append_nil _).symm
  · rw [heq, asks?, hterm, Option.filter_some, if_neg (by simp [hblank])]
    exact (List.append_nil _).symm
  · rw [heq, asks?, hterm, Option.filter_some, if_neg (by simp [hpeek])]
    exact (List.append_nil _).symm
  · rw [heq, asks?, hterm, Option.filter_some, if_pos (by simp [hne, hpeek])]
    exact fetched_subjects outcome (t.rested now) term

/-! ## The same with and without a cache -/

/-- An adapter that keeps answers does as one that keeps none, and asks for less. -/
structure Mirrors (outcome : String → ListAnswer) (kept bare : Typeahead) : Prop where
  keeps : Prompt outcome kept
  forgets : Prompt outcome bare
  cache : bare.cache = .ofCapacity 0
  debouncer : kept.debouncer = bare.debouncer
  lastTerm : kept.lastTerm = bare.lastTerm
  asked : kept.desk.subjects.Sublist bare.desk.subjects

theorem mirrors_ofSource (outcome : String → ListAnswer) (window capacity : Nat) :
    Mirrors outcome (ofSource (promptly outcome) window capacity)
      (ofSource (promptly outcome) window 0) :=
  ⟨prompt_ofSource _ _ _, prompt_ofSource _ _ _, rfl, rfl, rfl, List.Sublist.refl _⟩

/-- Without capacity nothing is ever kept. -/
theorem Prompt.poll_bare (h : Prompt outcome t) (hcache : t.cache = .ofCapacity 0) (now : Nat) :
    (t.poll now).2.cache = .ofCapacity 0 := by
  rcases h.poll_cases now with ⟨_, heq⟩ | ⟨term, _, ⟨_, heq⟩ | ⟨_, list, hpeek, _⟩ | ⟨_, _, heq⟩⟩
  · rw [heq]
    exact hcache
  · rw [heq]
    exact hcache
  · rw [hcache] at hpeek
    cases hpeek
  · rw [heq]
    show keep t.cache term (outcome term) = _
    cases outcome term with
    | error e => exact hcache
    | ok list =>
        show t.cache.insert term list = _
        rw [hcache, RecentCache.insert_ofCapacity_zero]

theorem Mirrors.released (h : Mirrors outcome kept bare) (now : Nat) :
    kept.released now = bare.released now := by
  rw [Typeahead.released, Typeahead.released, h.debouncer]

/-- Whoever keeps answers asks for a term only if whoever keeps none does. -/
theorem Mirrors.asks_sublist (h : Mirrors outcome kept bare) (now : Nat) :
    (kept.asks? now).toList.Sublist (bare.asks? now).toList := by
  rw [bare.asks?_of_bare h.cache, ← h.released]
  exact kept.asks?_sublist now

theorem Mirrors.poll (h : Mirrors outcome kept bare) (now : Nat) :
    (kept.poll now).1 = (bare.poll now).1 ∧
      Mirrors outcome (kept.poll now).2 (bare.poll now).2 := by
  have hkept := h.keeps.poll now
  have hbare := h.forgets.poll now
  refine ⟨by rw [hkept.list, hbare.list, h.released], hkept.prompt, hbare.prompt,
    h.forgets.poll_bare h.cache now, ?_, ?_, ?_⟩
  · rw [hkept.debouncer, hbare.debouncer, h.debouncer]
  · rw [hkept.lastTerm, hbare.lastTerm, h.released, h.lastTerm]
  · rw [h.keeps.poll_subjects, h.forgets.poll_subjects]
    exact h.asked.append (h.asks_sublist now)

/-- Every action has the same reply from both. -/
theorem Mirrors.perform (h : Mirrors outcome kept bare) (action : Action) :
    (kept.perform action).1 = (bare.perform action).1 ∧
      Mirrors outcome (kept.perform action).2 (bare.perform action).2 := by
  have hkeeps := h.keeps.perform action
  have hforgets := h.forgets.perform action
  cases action with
  | push content now =>
      refine ⟨rfl, hkeeps, hforgets, h.cache, ?_, h.lastTerm, h.asked⟩
      show kept.debouncer.push _ now = bare.debouncer.push _ now
      rw [h.debouncer]
  | poll now =>
      obtain ⟨hlist, hmirrors⟩ := h.poll now
      exact ⟨congrArg Reply.polled hlist, hmirrors⟩
  | reset =>
      change Prompt outcome kept.reset at hkeeps
      change Prompt outcome bare.reset at hforgets
      refine ⟨rfl, ?_⟩
      show Mirrors outcome kept.reset bare.reset
      rw [h.keeps.reset_eq] at hkeeps ⊢
      rw [h.forgets.reset_eq] at hforgets ⊢
      exact ⟨hkeeps, hforgets, h.cache, congrArg Debouncer.clear h.debouncer, rfl, h.asked⟩
  | complete number answer =>
      rw [Typeahead.perform, Typeahead.perform, h.keeps.complete_eq, h.forgets.complete_eq]
      exact ⟨rfl, h⟩
  | abandon number =>
      rw [Typeahead.perform, Typeahead.perform, h.keeps.abandon_eq, h.forgets.abandon_eq]
      exact ⟨rfl, h⟩

theorem Mirrors.run (h : Mirrors outcome kept bare) (actions : List Action) :
    Mirrors outcome (kept.run actions) (bare.run actions) := by
  induction actions generalizing kept bare with
  | nil => exact h
  | cons action rest ih => exact ih (h.perform action).2

theorem Mirrors.transcript_eq (h : Mirrors outcome kept bare) (actions : List Action) :
    kept.transcript actions = bare.transcript actions := by
  induction actions generalizing kept bare with
  | nil => rfl
  | cons action rest ih =>
      obtain ⟨hreply, hmirrors⟩ := h.perform action
      have hloading : (kept.perform action).2.isLoading = (bare.perform action).2.isLoading := by
        rw [isLoading, isLoading, hmirrors.keeps.flight, hmirrors.forgets.flight]
      rw [transcript, transcript, hreply, hmirrors.lastTerm, hloading, ih hmirrors]

/-! ## What the cache saves -/

/-- Every answer is kept as long as there is room for one for each term that was
asked for, and so no term with an answer was asked for twice. -/
structure Remembers (outcome : String → ListAnswer) (capacity : Nat) (t : Typeahead) :
    Prop where
  size : t.cache.capacity = capacity
  nodup : t.cache.keys.Nodup
  asked : t.cache.keys ⊆ t.desk.subjects
  keeps : t.desk.subjects.dedup.length ≤ capacity → ∀ term list,
    outcome term = .ok list → term ∈ t.desk.subjects → term ∈ t.cache.keys
  once : t.desk.subjects.dedup.length ≤ capacity → ∀ term list,
    outcome term = .ok list → t.desk.subjects.count term ≤ 1

variable {capacity : Nat}

theorem Remembers.congr {t' : Typeahead} (h : Remembers outcome capacity t)
    (hcache : t'.cache = t.cache) (hsubjects : t'.desk.subjects = t.desk.subjects) :
    Remembers outcome capacity t' := by
  refine ⟨?_, ?_, ?_, ?_, ?_⟩
  · rw [hcache]
    exact h.size
  · rw [hcache]
    exact h.nodup
  · rw [hcache, hsubjects]
    exact h.asked
  · rw [hcache, hsubjects]
    exact h.keeps
  · rw [hsubjects]
    exact h.once

/-- With room for all terms that were asked for, and one more, nothing is displaced. -/
theorem Remembers.mem_insert {terms : List String} (h : Remembers outcome capacity t)
    (hsub : t.desk.subjects ⊆ terms) (hroom : terms.dedup.length ≤ capacity) {term other : String}
    (hterm : term ∈ terms) (list : List String) (hother : other = term ∨ other ∈ t.cache.keys) :
    other ∈ (t.cache.insert term list).keys := by
  have hfits := RecentCache.room_of_subset h.nodup (List.Subset.trans h.asked hsub) hterm
  refine RecentCache.mem_keys_insert_of_room ?_ hother
  rw [h.size]
  exact hfits.trans hroom

theorem Remembers.touch (h : Remembers outcome capacity t) (term : String) :
    Remembers outcome capacity { t with cache := t.cache.touch term } := by
  cases hpeek : t.cache.peek? term with
  | none => exact h.congr (by rw [RecentCache.touch, hpeek]) rfl
  | some list =>
      have hkey : term ∈ t.cache.keys := by
        by_contra hmissing
        rw [RecentCache.peek?_eq_none_iff.2 hmissing] at hpeek
        cases hpeek
      have htouch : t.cache.touch term = t.cache.insert term list := by
        rw [RecentCache.touch, hpeek]
      rw [htouch]
      refine ⟨h.size, RecentCache.nodup_insert h.nodup term list, ?_, ?_, h.once⟩
      · intro other hother
        rcases RecentCache.mem_keys_insert hother with rfl | hother
        · exact h.asked hkey
        · exact h.asked hother
      · intro hroom other answer hanswer hother
        exact h.mem_insert (List.Subset.refl _) hroom (h.asked hkey) list
          (.inr (h.keeps hroom other answer hanswer hother))

/-- A term is asked for only if its answer is not kept, so it has had none. -/
theorem Remembers.fetched (h : Remembers outcome capacity t) {term : String}
    (hpeek : t.cache.peek? term = none) :
    Remembers outcome capacity (t.fetched outcome term) := by
  have hmissing := RecentCache.peek?_eq_none_iff.1 hpeek
  have hsubjects := fetched_subjects outcome t term
  have hcache : (t.fetched outcome term).cache = keep t.cache term (outcome term) := rfl
  have hgrown : t.desk.subjects ⊆ t.desk.subjects ++ [term] := List.subset_append_left _ _
  have hterm : term ∈ t.desk.subjects ++ [term] := by simp
  have hbefore : (t.desk.subjects ++ [term]).dedup.length ≤ capacity →
      t.desk.subjects.dedup.length ≤ capacity := by
    refine le_trans ((List.nodup_dedup _).length_le_of_subset ?_)
    intro other hother
    rw [List.mem_dedup] at hother ⊢
    exact hgrown hother
  refine ⟨?_, ?_, ?_, ?_, ?_⟩
  · rw [hcache]
    cases outcome term with
    | ok list => exact h.size
    | error e => exact h.size
  · rw [hcache]
    cases outcome term with
    | ok list => exact RecentCache.nodup_insert h.nodup term list
    | error e => exact h.nodup
  · rw [hcache, hsubjects]
    cases outcome term with
    | error e => exact List.Subset.trans h.asked hgrown
    | ok list =>
        intro other hother
        rcases RecentCache.mem_keys_insert hother with rfl | hother
        · exact hterm
        · exact hgrown (h.asked hother)
  · rw [hcache, hsubjects]
    intro hroom other answer hanswer hother
    have hkept : other ∈ t.desk.subjects → other ∈ t.cache.keys :=
      h.keeps (hbefore hroom) other answer hanswer
    cases houtcome : outcome term with
    | ok list =>
        refine h.mem_insert hgrown hroom hterm list ?_
        rcases List.mem_append.1 hother with hother | hother
        · exact .inr (hkept hother)
        · exact .inl (List.mem_singleton.1 hother)
    | error e =>
        rcases List.mem_append.1 hother with hother | hother
        · exact hkept hother
        · obtain rfl := List.mem_singleton.1 hother
          cases hanswer.symm.trans houtcome
  · rw [hsubjects]
    intro hroom other answer hanswer
    have honce := h.once (hbefore hroom) other answer hanswer
    rw [List.count_append, List.count_singleton]
    split
    · next heq =>
        obtain rfl : term = other := by simpa using heq
        have hnew : term ∉ t.desk.subjects := by
          intro hasked
          exact hmissing (h.keeps (hbefore hroom) term answer hanswer hasked)
        rw [List.count_eq_zero_of_not_mem hnew]
    · omega

theorem Remembers.perform (h : Remembers outcome capacity t) (hprompt : Prompt outcome t)
    (action : Action) : Remembers outcome capacity (t.perform action).2 := by
  cases action with
  | push content now => exact h.congr rfl rfl
  | poll now =>
      have hrested : Remembers outcome capacity (t.rested now) := h.congr rfl rfl
      show Remembers outcome capacity (t.poll now).2
      rcases hprompt.poll_cases now with ⟨_, heq⟩ | ⟨term, _, ⟨_, heq⟩ | ⟨_, list, _, heq⟩ |
        ⟨_, hpeek, heq⟩⟩
      · rw [heq]
        exact hrested
      · rw [heq]
        exact h.congr rfl rfl
      · rw [heq]
        exact (h.touch term).congr rfl rfl
      · rw [heq]
        exact (hrested.fetched hpeek).congr rfl rfl
  | reset =>
      show Remembers outcome capacity t.reset
      rw [hprompt.reset_eq]
      exact h.congr rfl rfl
  | complete number answer =>
      rw [Typeahead.perform, hprompt.complete_eq]
      exact h
  | abandon number =>
      rw [Typeahead.perform, hprompt.abandon_eq]
      exact h

/-- What waits or was asked for is among some terms. -/
structure Among (terms : List String) (t : Typeahead) : Prop where
  waits : ∀ key, t.debouncer.pending = some key → key.text ∈ terms
  asked : t.desk.subjects ⊆ terms

theorem Among.poll {terms : List String} (h : Among terms t) (hprompt : Prompt outcome t)
    (now : Nat) : Among terms (t.poll now).2 := by
  refine ⟨?_, ?_⟩
  · rw [(hprompt.poll now).debouncer]
    intro key hkey
    rw [Debouncer.flush_pending] at hkey
    split at hkey
    · cases hkey
    · exact h.waits key hkey
  · rw [hprompt.poll_subjects]
    intro term hterm
    rcases List.mem_append.1 hterm with hterm | hterm
    · exact h.asked hterm
    · have hreleased : t.released now = some term :=
        (Option.filter_eq_some_iff.1 (Option.mem_toList.1 hterm)).1
      obtain ⟨time, hpending, _⟩ := (t.debouncer.flush_eq_some_iff now term).1 hreleased
      exact h.waits ⟨term, time⟩ hpending

theorem Among.perform {terms : List String} (h : Among terms t) (hprompt : Prompt outcome t)
    {action : Action} (htyped : typed [action] ⊆ terms) : Among terms (t.perform action).2 := by
  cases action with
  | push content now =>
      refine ⟨?_, h.asked⟩
      rintro key ⟨⟩
      exact htyped List.mem_cons_self
  | poll now => exact h.poll hprompt now
  | reset =>
      show Among terms t.reset
      rw [hprompt.reset_eq]
      refine ⟨?_, h.asked⟩
      rintro key ⟨⟩
  | complete number answer =>
      rw [Typeahead.perform, hprompt.complete_eq]
      exact h
  | abandon number =>
      rw [Typeahead.perform, hprompt.abandon_eq]
      exact h

/-! ## A run -/

/-- What a run keeps, of what every action keeps with a prompt source. -/
theorem Prompt.run_induction {holds : Typeahead → Prop} (hprompt : Prompt outcome t)
    (hstart : holds t) (actions : List Action)
    (hstep : ∀ t action, action ∈ actions → Prompt outcome t → holds t →
      holds (t.perform action).2) : holds (t.run actions) := by
  induction actions generalizing t with
  | nil => exact hstart
  | cons action rest ih =>
      refine ih (hprompt.perform action) (hstep t action List.mem_cons_self hprompt hstart) ?_
      intro t other hother
      exact hstep t other (List.mem_cons_of_mem _ hother)

theorem remembers_run (outcome : String → ListAnswer) (window capacity : Nat)
    (actions : List Action) :
    Remembers outcome capacity ((ofSource (promptly outcome) window capacity).run actions) := by
  refine (prompt_ofSource outcome window capacity).run_induction ?_ actions ?_
  · exact ⟨rfl, List.nodup_nil, List.Subset.refl _, fun _ _ _ _ h => h,
      fun _ _ _ _ => Nat.zero_le _⟩
  · intro t action _ hprompt h
    exact h.perform hprompt action

theorem typed_subset {actions : List Action} {action : Action} (h : action ∈ actions) :
    typed [action] ⊆ typed actions :=
  ((List.singleton_sublist.2 h).filterMap _).subset

theorem asked_run (outcome : String → ListAnswer) (window capacity : Nat)
    (actions : List Action) :
    ((ofSource (promptly outcome) window capacity).run actions).desk.subjects ⊆ typed actions := by
  refine Among.asked ((prompt_ofSource outcome window capacity).run_induction ?_ actions ?_)
  · refine ⟨?_, List.nil_subset _⟩
    rintro key ⟨⟩
  · intro t action hmem hprompt h
    exact h.perform hprompt (typed_subset hmem)

/-- What keeping answers changes in a run, and what it does not. -/
structure Transparent (outcome : String → ListAnswer) (window capacity : Nat)
    (actions : List Action) : Prop where
  transcript : (ofSource (promptly outcome) window capacity).transcript actions =
    (ofSource (promptly outcome) window 0).transcript actions
  requests : ((ofSource (promptly outcome) window capacity).run actions).requestCount ≤
    ((ofSource (promptly outcome) window 0).run actions).requestCount
  /-- Only what was typed is asked for. -/
  asked : ((ofSource (promptly outcome) window 0).run actions).desk.subjects ⊆ typed actions
  /-- With room for as many answers as there are different terms to ask for, no term that is
  answered is asked for twice. -/
  spared : ((ofSource (promptly outcome) window 0).run actions).desk.subjects.dedup.length ≤
    capacity → ∀ term list, outcome term = .ok list →
      ((ofSource (promptly outcome) window capacity).run actions).desk.subjects.count term ≤ 1

/-- Keeping answers changes nothing that shows, and saves requests. -/
theorem cache_transparent (outcome : String → ListAnswer) (window capacity : Nat)
    (actions : List Action) : Transparent outcome window capacity actions := by
  have hmirrors := (mirrors_ofSource outcome window capacity).run actions
  have hremembers := remembers_run outcome window capacity actions
  refine {
    transcript := (mirrors_ofSource outcome window capacity).transcript_eq actions
    requests := ?_
    asked := asked_run outcome window 0 actions
    spared := ?_ }
  · rw [requestCount, requestCount, ← Desk.length_subjects, ← Desk.length_subjects]
    exact hmirrors.asked.length_le
  · intro hroom term list hanswer
    refine hremembers.once (le_trans ?_ hroom) term list hanswer
    refine (List.nodup_dedup _).length_le_of_subset ?_
    intro other hother
    rw [List.mem_dedup] at hother ⊢
    exact hmirrors.asked.subset hother

/-- A failure is not kept, and with room for one answer a term that returns after another is
asked for again. -/
example :
    let source := promptly fun term => if term = "b" then .error ⟨"down"⟩ else .ok [term]
    let actions : List Action := [.push "a" 0, .poll 0, .push "b" 1, .poll 1, .push "a " 2,
      .poll 2, .push "b" 3, .poll 3, .push "c" 4, .poll 4, .push "a" 5, .poll 5]
    ((ofSource source 0 0).run actions).desk.subjects = ["a", "b", "a", "b", "c", "a"] ∧
      ((ofSource source 0 1).run actions).desk.subjects = ["a", "b", "b", "c", "a"] ∧
      ((ofSource source 0 3).run actions).desk.subjects = ["a", "b", "b", "c"] := by
  decide +kernel

end Typeahead

end RecordSearch
