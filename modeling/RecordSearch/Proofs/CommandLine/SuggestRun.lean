import Mathlib.Data.List.Destutter
import RecordSearch.CommandLine.Run
import RecordSearch.Proofs.Storage
import RecordSearch.Proofs.Typeahead.Caching
import RecordSearch.Proofs.Typeahead.Served

/-!
# What the suggest command replays

The suggest command types its keystrokes at equal times on a clock of its own and
waits for the adapter before each of them, and once more when the last has rested.
What it prints can be told from the list of keystrokes alone. If they come no faster
than the debouncer lets go, each of them comes to rest before the next one is made,
and only a repetition of the one before is swallowed. If they come faster, none of
them but the last ever rests.

Answers that come in time make a wait as good as one look over a source that answers at
once, so it is such looks that are followed through the keystrokes. Both halves are
inductions on the keystrokes that are left, over one fact about a look: the lists that
become ready are those of the terms released, and what it asks for is among them.
`Replayed` says so of any stretch of a replay.

The one thing that can still go wrong comes before the first keystroke. The table of
the cache is made for the whole capacity that the settings name, however few terms
there are.
-/

namespace RecordSearch

/-- Terms one after the other, but for those that repeat the one before. -/
def collapsed : Option String → List String → List String
  | _, [] => []
  | last, term :: rest =>
    if last = some term then collapsed last rest else term :: collapsed (some term) rest

theorem cons_collapsed (last : String) (terms : List String) :
    last :: collapsed (some last) terms = terms.destutter' (· ≠ ·) last := by
  induction terms generalizing last with
  | nil => rfl
  | cons term rest ih =>
      rw [collapsed, List.destutter'_cons]
      by_cases hrepeat : last = term
      · rw [if_pos (congrArg some hrepeat), if_neg (not_not_intro hrepeat), ih]
      · rw [if_neg (fun hsame => hrepeat (Option.some.inj hsame)), if_pos hrepeat, ih]

theorem collapsed_none (terms : List String) :
    collapsed none terms = terms.destutter (· ≠ ·) := by
  cases terms with
  | nil => rfl
  | cons term rest =>
      rw [collapsed, if_neg (Option.some_ne_none term).symm, cons_collapsed]
      rfl

namespace Debouncer

variable {d : Debouncer} {now : Nat}

/-- The text that has not been released. -/
def waiting (d : Debouncer) : List String :=
  (d.pending.map (·.text)).toList

/-- A flush releases what has rested, unless it is a repetition. -/
theorem collapsed_waiting (h : ∀ key ∈ d.pending, d.window ≤ now - key.time)
    (later : List String) :
    collapsed d.lastReleased (d.waiting ++ later) =
      (d.flush now).1.toList ++ collapsed (d.flush now).2.lastReleased later := by
  rcases d.flush_eq now with ⟨hearly, heq⟩ | ⟨key, hpending, _, heq⟩
  · have hnone : d.pending = none := by
      cases hpending : d.pending with
      | none => rfl
      | some key =>
          rw [isReady_of_pending hpending] at hearly
          exact absurd (h key hpending) (of_decide_eq_false hearly)
    rw [heq, waiting, hnone]
    rfl
  · rw [heq, waiting, hpending]
    show collapsed d.lastReleased (key.text :: later) = _
    rw [collapsed]
    split
    · rfl
    · rfl

theorem flush_of_early (h : ∀ key ∈ d.pending, now - key.time < d.window) :
    d.flush now = (none, d) := by
  refine flush_of_not_ready ?_
  cases hpending : d.pending with
  | none => exact isReady_of_no_pending hpending now
  | some key =>
      rw [isReady_of_pending hpending]
      exact decide_eq_false (Nat.not_le.2 (h key hpending))

end Debouncer

namespace CommandLine

open Typeahead (Prompt ReadyLists listFor promptly served)

variable {outcome : String → ListAnswer} {t : Typeahead} {now window interval : Nat}

/-! ## A stretch of a replay -/

/-- Some terms were released one after the other: their lists became ready, and the
source was asked for nothing else, and for each of them if no answers are kept. -/
structure Replayed (outcome : String → ListAnswer) (t : Typeahead) (terms : List String)
    (after : Typeahead × ReadyLists) : Prop where
  prompt : Prompt outcome after.1
  ready : after.2 = terms.map fun term => (term, listFor outcome term)
  asked : after.1.requestCount ≤ t.requestCount + terms.countP (· ≠ "")
  bare : t.cache = .ofCapacity 0 → after.1.cache = .ofCapacity 0 ∧
    after.1.requestCount = t.requestCount + terms.countP (· ≠ "")

theorem Replayed.append {terms later : List String} {ready : ReadyLists}
    {between : Typeahead} {after : Typeahead × ReadyLists}
    (h : Replayed outcome t terms (between, ready))
    (hlater : Replayed outcome between later after) :
    Replayed outcome t (terms ++ later) (after.1, ready ++ after.2) := by
  refine ⟨hlater.prompt, ?_, ?_, ?_⟩
  · rw [List.map_append, ← h.ready, ← hlater.ready]
  · rw [List.countP_append, ← Nat.add_assoc]
    exact hlater.asked.trans (Nat.add_le_add_right h.asked _)
  · intro hcache
    obtain ⟨hbetween, hcount⟩ := h.bare hcache
    obtain ⟨hafter, hmore⟩ := hlater.bare hbetween
    exact ⟨hafter, by rw [List.countP_append, ← Nat.add_assoc, ← hcount, hmore]⟩

theorem requestCount_poll (h : Prompt outcome t) (now : Nat) :
    (t.poll now).2.requestCount = t.requestCount + (t.asks? now).toList.length := by
  rw [Typeahead.requestCount, Typeahead.requestCount, ← Desk.length_subjects,
    ← Desk.length_subjects, h.poll_subjects, List.length_append]

theorem replayed_poll (h : Prompt outcome t) (now : Nat) :
    Replayed outcome t (t.released now).toList
      ((t.poll now).2, (t.poll now).2.underTerm (t.poll now).1) := by
  have hturns := h.poll now
  have hcount := requestCount_poll h now
  refine ⟨hturns.prompt, ?_, ?_, ?_⟩
  · rw [Typeahead.underTerm, hturns.list, hturns.lastTerm]
    cases t.released now with
    | none => rfl
    | some term => rfl
  · rw [hcount, List.countP_eq_length_filter]
    exact Nat.add_le_add_left (t.asks?_sublist now).length_le _
  · intro hcache
    refine ⟨h.poll_bare hcache now, ?_⟩
    rw [hcount, t.asks?_of_bare hcache, List.countP_eq_length_filter]

/-! ## A whole replay -/

/-- The adapter after a look and a keystroke. -/
def struck (t : Typeahead) (now : Nat) (key : String) : Typeahead :=
  (t.poll now).2.push key now

theorem struck_debouncer (h : Prompt outcome t) (now : Nat) (key : String) :
    (struck t now key).debouncer =
      ⟨t.debouncer.window, some ⟨Text.trim key, now⟩, (t.debouncer.flush now).2.lastReleased⟩ := by
  rw [struck, Typeahead.push, (h.poll now).debouncer, Debouncer.push, Debouncer.flush_window]

theorem struck_window (h : Prompt outcome t) (now : Nat) (key : String) :
    (struck t now key).debouncer.window = t.debouncer.window := by
  rw [struck_debouncer h]

theorem time_of_struck (h : Prompt outcome t) {key : String} {waiting : Keystroke}
    (hwaiting : waiting ∈ (struck t now key).debouncer.pending) : waiting.time = now := by
  rw [struck_debouncer h] at hwaiting
  cases hwaiting
  rfl

theorem replayed_struck (h : Prompt outcome t) (now : Nat) (key : String) :
    Replayed outcome t (t.released now).toList
      (struck t now key, (t.poll now).2.underTerm (t.poll now).1) := by
  have hpoll := replayed_poll h now
  exact ⟨hpoll.prompt.perform (.push key now), hpoll.ready, hpoll.asked, hpoll.bare⟩

/-- A replay with one look before each keystroke, and one when the last of them has
rested. -/
def replayThrough (window interval : Nat) (t : Typeahead) (now : Nat) :
    List String → Typeahead × ReadyLists
  | [] => (t, [])
  | [key] =>
    let (list, last) := (struck t now key).poll (now + window)
    (last, (t.poll now).2.underTerm (t.poll now).1 ++ last.underTerm list)
  | key :: next :: rest =>
    let later := replayThrough window interval (struck t now key) (now + interval) (next :: rest)
    (later.1, (t.poll now).2.underTerm (t.poll now).1 ++ later.2)

/-- The last keystroke comes to rest whatever the interval. -/
theorem replayed_last (h : Prompt outcome t) (interval now : Nat) (key : String) :
    Replayed outcome t
      ((t.released now).toList ++ collapsed (t.debouncer.flush now).2.lastReleased [Text.trim key])
      (replayThrough t.debouncer.window interval t now [key]) := by
  have hstruck := replayed_struck h now key
  have hrested : ∀ waiting ∈ (struck t now key).debouncer.pending,
      (struck t now key).debouncer.window ≤ now + t.debouncer.window - waiting.time := by
    intro waiting hwaiting
    rw [struck_window h, time_of_struck h hwaiting]
    omega
  have hterms : collapsed (t.debouncer.flush now).2.lastReleased [Text.trim key] =
      ((struck t now key).released (now + t.debouncer.window)).toList := by
    have hreleased := Debouncer.collapsed_waiting hrested []
    rw [collapsed, List.append_nil, List.append_nil] at hreleased
    rw [Typeahead.released, ← hreleased, struck_debouncer h]
    rfl
  rw [hterms]
  exact hstruck.append (replayed_poll hstruck.prompt (now + t.debouncer.window))

/-- If keystrokes come no faster than the debouncer lets go, each of them has rested
when the next one is made. -/
theorem replayed_spaced (h : Prompt outcome t) (hspaced : t.debouncer.window ≤ interval)
    (hrested : ∀ waiting ∈ t.debouncer.pending, t.debouncer.window ≤ now - waiting.time)
    (key : String) (rest : List String) :
    Replayed outcome t
      (collapsed t.debouncer.lastReleased (t.debouncer.waiting ++ (key :: rest).map Text.trim))
      (replayThrough t.debouncer.window interval t now (key :: rest)) := by
  induction rest generalizing key t now with
  | nil =>
      rw [Debouncer.collapsed_waiting hrested]
      exact replayed_last h interval now key
  | cons next rest ih =>
      have hstruck := replayed_struck h now key
      have hlater : ∀ waiting ∈ (struck t now key).debouncer.pending,
          (struck t now key).debouncer.window ≤ now + interval - waiting.time := by
        intro waiting hwaiting
        rw [struck_window h, time_of_struck h hwaiting]
        omega
      have hrest := ih hstruck.prompt (by rw [struck_window h]; exact hspaced) hlater next
      rw [struck_debouncer h] at hrest
      rw [Debouncer.collapsed_waiting hrested, replayThrough]
      exact hstruck.append hrest

/-- If keystrokes come faster, the next one is made before any has rested. -/
theorem replayed_dense (h : Prompt outcome t) (hdense : interval < t.debouncer.window)
    (hearly : ∀ waiting ∈ t.debouncer.pending, now - waiting.time < t.debouncer.window)
    (key : String) (rest : List String) :
    Replayed outcome t
      (collapsed t.debouncer.lastReleased ((key :: rest).map Text.trim).getLast?.toList)
      (replayThrough t.debouncer.window interval t now (key :: rest)) := by
  induction rest generalizing key t now with
  | nil =>
      have hlast := replayed_last h interval now key
      rw [Typeahead.released, Debouncer.flush_of_early hearly] at hlast
      exact hlast
  | cons next rest ih =>
      have hstruck := replayed_struck h now key
      have hdebouncer := struck_debouncer h now key
      -- The keystroke takes the place of the one that waits, which is never heard of again.
      rw [Typeahead.released, Debouncer.flush_of_early hearly] at hstruck
      rw [Debouncer.flush_of_early hearly] at hdebouncer
      have hlater : ∀ waiting ∈ (struck t now key).debouncer.pending,
          now + interval - waiting.time < (struck t now key).debouncer.window := by
        intro waiting hwaiting
        rw [struck_window h, time_of_struck h hwaiting]
        omega
      have hrest := ih hstruck.prompt (by rw [struck_window h]; exact hdense) hlater next
      rw [hdebouncer] at hrest
      rw [replayThrough]
      exact hstruck.append hrest

/-! ## Waits as looks -/

variable {data : Fixture} {services : Nat → Service}

theorem drain_eq (h : Prompt (fun term => .ok (data.suggest term)) t)
    (hserved : ∀ number, (services number).InTime) (hclock : now < clockEnd) (ready : ReadyLists) :
    drain data services now (t.asking (data.suggestionSource services), ready) =
      .ok ((t.poll now).2.asking (data.suggestionSource services),
        ready ++ (t.poll now).2.underTerm (t.poll now).1) := by
  have hawait : (Typeahead.waiting (fun term => .ok (data.suggest term)) now).await services
      (t.asking (data.suggestionSource services), ready) = _ := h.await_asking hserved now ready
  rw [drain, if_pos hclock, hawait]
  rfl

/-- If the answers come in time and the times can be told, a replay with waits comes to what
the replay with looks does. -/
theorem replay_eq (h : Prompt (fun term => .ok (data.suggest term)) t)
    (hserved : ∀ number, (services number).InTime) (key : String) (rest : List String)
    (hclock : now + rest.length * interval + window < clockEnd) (ready : ReadyLists) :
    (replay data services interval (t.asking (data.suggestionSource services), ready) now
        (key :: rest) >>= fun after => drain data services (after.2 + window) after.1) =
      .ok ((replayThrough window interval t now (key :: rest)).1.asking
          (data.suggestionSource services),
        ready ++ (replayThrough window interval t now (key :: rest)).2) := by
  induction rest generalizing key t now ready with
  | nil =>
      have hstruck := replayed_struck h now key
      have hnow : now < clockEnd := by omega
      rw [replay, drain_eq h hserved hnow]
      show drain data services (now + window) ((struck t now key).asking _, _) = _
      rw [drain_eq hstruck.prompt hserved (by omega), List.append_assoc]
      rfl
  | cons next rest ih =>
      have hstruck := replayed_struck h now key
      have hnow : now < clockEnd := by omega
      have hlater : now + interval + rest.length * interval + window < clockEnd := by
        rw [List.length_cons, Nat.add_one_mul] at hclock
        omega
      rw [replay, drain_eq h hserved hnow]
      show (replay data services interval ((struck t now key).asking _, _) (now + interval)
        (next :: rest) >>= _) = _
      rw [ih hstruck.prompt next hlater, List.append_assoc]
      rfl

/-! ## The command -/

/-- The terms that come to rest: each keystroke without its blanks, unless it repeats
the one before, if the interval is long enough for it to rest, and only the last
otherwise. -/
def restedTerms (interval window : Nat) (keystrokes : List String) : List String :=
  if window ≤ interval then (keystrokes.map Text.trim).destutter (· ≠ ·)
  else (keystrokes.map Text.trim).getLast?.toList

theorem replayed_replayThrough (data : Fixture) (settings : Settings) (interval : Nat)
    {keystrokes : List String} (hkeys : keystrokes ≠ []) :
    Replayed (fun term => .ok (data.suggest term))
      (.ofSettings (promptly fun term => .ok (data.suggest term)) settings)
      (restedTerms interval settings.debounce.toNat keystrokes)
      (replayThrough settings.debounce.toNat interval
        (.ofSettings (promptly fun term => .ok (data.suggest term)) settings) 0 keystrokes) := by
  have hprompt : Prompt (fun term => .ok (data.suggest term))
      (.ofSettings (promptly fun term => .ok (data.suggest term)) settings) :=
    Typeahead.prompt_ofSource _ _ _
  obtain ⟨key, rest, rfl⟩ := List.exists_cons_of_ne_nil hkeys
  rw [restedTerms]
  split
  · next hspaced =>
      rw [← collapsed_none]
      refine replayed_spaced hprompt hspaced ?_ key rest
      rintro waiting ⟨⟩
  · next hdense =>
      refine replayed_dense hprompt (Nat.not_le.1 hdense) ?_ key rest
      rintro waiting ⟨⟩

/-- A millisecond makes the difference between one term and all of them. -/
example :
    restedTerms 199 200 ["a", "acme", "acme ", ""] = [""] ∧
      restedTerms 200 200 ["a", "acme", "acme ", ""] = ["a", "acme", ""] := by
  decide +kernel

/-- A run of the suggest command that succeeds. -/
structure Prints (data : Fixture) (settings : Settings) (styled : Bool) (terms : List String)
    (files : Files) (ended : Outcome) : Prop where
  exitCode : ended.exitCode = some 0
  /-- Each term in order, with what the fixture suggests for it, which is nothing for a
  blank one. -/
  stdout : ended.stdout = Span.renderAll styled (terms.flatMap fun term =>
    Report.suggestions term (if term = "" then [] else data.suggest term))
  /-- Without a cache each term that is not blank is asked for. -/
  stderr : ∃ requests, ended.stderr = toString requests ++ " request(s) issued\n" ∧
    requests ≤ terms.countP (· ≠ "") ∧
    (settings.cacheSize = 0 → requests = terms.countP (· ≠ ""))
  files : ended.files = files

theorem replayAll_eq (data : Fixture) (settings : Settings) {interval : Nat}
    {keystrokes : List String} (hkeys : keystrokes ≠ [])
    (hclock : (keystrokes.length - 1) * interval + settings.debounce.toNat < clockEnd)
    (hserved : ∀ number, (services number).InTime) :
    ∃ after : Typeahead × ReadyLists,
      replayAll data services settings interval keystrokes = .ok after ∧
      after.2 = (restedTerms interval settings.debounce.toNat keystrokes).map (fun term =>
        (term, if term = "" then [] else data.suggest term)) ∧
      after.1.requestCount ≤
        (restedTerms interval settings.debounce.toNat keystrokes).countP (· ≠ "") ∧
      (settings.cacheSize = 0 → after.1.requestCount =
        (restedTerms interval settings.debounce.toNat keystrokes).countP (· ≠ "")) := by
  have hprompt : Prompt (fun term => .ok (data.suggest term))
      (.ofSettings (promptly fun term => .ok (data.suggest term)) settings) :=
    Typeahead.prompt_ofSource _ _ _
  have hreplayed := replayed_replayThrough data settings interval hkeys
  have hcount : (Typeahead.ofSettings (promptly fun term => .ok (data.suggest term))
      settings).requestCount = 0 := rfl
  have hasked := hreplayed.asked
  have hbare := hreplayed.bare
  rw [hcount, Nat.zero_add] at hasked hbare
  refine ⟨((replayThrough settings.debounce.toNat interval
      (.ofSettings (promptly fun term => .ok (data.suggest term)) settings) 0 keystrokes).1.asking
        (data.suggestionSource services), _), ?_, hreplayed.ready, hasked, fun hzero => ?_⟩
  · obtain ⟨key, rest, rfl⟩ := List.exists_cons_of_ne_nil hkeys
    rw [List.length_cons, Nat.add_sub_cancel] at hclock
    exact replay_eq hprompt hserved key rest (by omega) []
  · refine (hbare ?_).2
    show RecentCache.ofCapacity settings.cacheSize.toNat = _
    rw [hzero]
    rfl

theorem prints_suggestOutcome {around : Surroundings} (data : Fixture) {settings : Settings}
    (styled : Bool) {interval : Nat} {keystrokes : List String} (hkeys : keystrokes ≠ [])
    (hclock : (keystrokes.length - 1) * interval + settings.debounce.toNat < clockEnd)
    (hserved : ∀ number, (around.services number).InTime)
    (hmade : around.cacheMaking settings = .made) :
    Prints data settings styled (restedTerms interval settings.debounce.toNat keystrokes)
      around.files (suggestOutcome around data settings styled interval keystrokes) := by
  obtain ⟨after, hreplayed, hready, hasked, hbare⟩ :=
    replayAll_eq data settings hkeys hclock hserved
  unfold suggestOutcome
  dsimp only
  rw [hmade]
  dsimp only
  rw [hreplayed]
  dsimp only
  rw [hready, List.flatMap_map]
  exact ⟨rfl, rfl, ⟨_, rfl, hasked, hbare⟩, rfl⟩

/-- The suggest command fails without a fixture. Otherwise it prints the terms that come to
rest, if the table of its cache can be made, every list comes in time and the clock can
tell the times. -/
theorem suggest_replays (around : Surroundings) (settings : Settings)
    (settingsPath : Option String) (color : Bool) (fixture : String) (interval : Nat)
    (keystrokes : List String) (hkeys : keystrokes ≠ [])
    (hclock : (keystrokes.length - 1) * interval + settings.debounce.toNat < clockEnd)
    (hserved : ∀ number, (around.services number).InTime)
    (htable : settings.cacheSize ≠ 0 → around.cacheTable settings.cacheSize.toNat = .made) :
    (∃ e, Fixture.load around.files fixture = .error e ∧
      runCommand around settings ⟨.suggest fixture interval keystrokes, settingsPath, color⟩ =
        .failure "" (.storage e) around.files) ∨
    ∃ data, Fixture.load around.files fixture = .ok data ∧
      Prints data settings (showsColor around.environment color)
        (restedTerms interval settings.debounce.toNat keystrokes) around.files
        (runCommand around settings
          ⟨.suggest fixture interval keystrokes, settingsPath, color⟩) := by
  have hmade : around.cacheMaking settings = .made := by
    rw [Surroundings.cacheMaking]
    split
    · rfl
    · next hkeeps => exact htable hkeeps
  cases hload : Fixture.load around.files fixture with
  | error e =>
      refine .inl ⟨e, rfl, ?_⟩
      simp only [runCommand, hload]
  | ok data =>
      have hrun : runCommand around settings
          ⟨.suggest fixture interval keystrokes, settingsPath, color⟩ =
          suggestOutcome around data settings (showsColor around.environment color) interval
            keystrokes := by
        simp only [runCommand, hload]
      refine .inr ⟨data, rfl, ?_⟩
      rw [hrun]
      exact prints_suggestOutcome data _ hkeys hclock hserved hmade

/-- Two records with different names. -/
def twoNames : Fixture :=
  ⟨[], [⟨1, "Acme", 4, 1, "e", false⟩, ⟨2, "Globex", 5, 1, "e", false⟩], .empty⟩

def twoNamesText : String :=
  "[[],[[1,\"Acme\",4,1,\"e\"],[2,\"Globex\",5,1,\"e\"]]]"

/-- A run that finds the two records in a file. Its requests are answered at once, after one
look and after two, and a table is made if eight bytes for each entry are a size. -/
def besideTwoNames : Surroundings :=
  ⟨[], none, ⟨[(["r"], .file twoNamesText.toUTF8)], []⟩, fun number => .after (number % 3) 0,
    fun capacity => if 8 * capacity < 9223372036854775808 then .made else .beyondSizes, none⟩

theorem load_twoNames : Fixture.load besideTwoNames.files "r" = .ok twoNames :=
  Fixture.load_only (by decide +kernel)

theorem inTime_besideTwoNames (number : Nat) : (besideTwoNames.services number).InTime :=
  Service.inTime_after (by omega) 0

/-- At the very interval that lets each keystroke rest, a repetition is swallowed and
the blank last one is not. -/
theorem suggest_replays_retyped :
    ["acme ", "\tacme", "zzz", " "] ≠ [] ∧
      (["acme ", "\tacme", "zzz", " "].length - 1) * 200 + Settings.default.debounce.toNat <
        clockEnd ∧
      (∀ number, (besideTwoNames.services number).InTime) ∧
      besideTwoNames.cacheTable Settings.default.cacheSize.toNat = .made ∧
      ∃ data, Fixture.load besideTwoNames.files "r" = .ok data ∧
        Prints data Settings.default false ["acme", "zzz", ""] besideTwoNames.files
          (runCommand besideTwoNames Settings.default
            ⟨.suggest "r" 200 ["acme ", "\tacme", "zzz", " "], none, false⟩) := by
  have hterms : restedTerms 200 Settings.default.debounce.toNat ["acme ", "\tacme", "zzz", " "] =
      ["acme", "zzz", ""] := by
    decide +kernel
  have hmade : besideTwoNames.cacheTable Settings.default.cacheSize.toNat = .made := by
    decide +kernel
  refine ⟨by decide, by decide, inTime_besideTwoNames, hmade, ?_⟩
  rcases suggest_replays besideTwoNames Settings.default none false "r" 200
      ["acme ", "\tacme", "zzz", " "] (by decide) (by decide) inTime_besideTwoNames
      (fun _ => hmade) with ⟨e, herror, _⟩ | ⟨data, hload, hprints⟩
  · rw [load_twoNames] at herror
    cases herror
  · rw [hterms] at hprints
    exact ⟨data, hload, hprints⟩

/-- For a cache of which not even the size of the table can be told, nothing is printed at
all, although the keystroke rests and its answer would come. -/
theorem suggest_overflows :
    ∃ data, Fixture.load besideTwoNames.files "r" = .ok data ∧ ["acme"] ≠ [] ∧
      (["acme"].length - 1) * 0 + Settings.default.debounce.toNat < clockEnd ∧
      (∀ number, (besideTwoNames.services number).InTime) ∧
      ¬ Prints data { Settings.default with cacheSize := 18446744073709551615 } false
        (restedTerms 0 Settings.default.debounce.toNat ["acme"]) besideTwoNames.files
        (runCommand besideTwoNames
          { Settings.default with cacheSize := 18446744073709551615 }
          ⟨.suggest "r" 0 ["acme"], none, false⟩) := by
  have hmaking : besideTwoNames.cacheMaking
      { Settings.default with cacheSize := 18446744073709551615 } = .beyondSizes := by
    decide +kernel
  refine ⟨_, load_twoNames, by decide, by decide, inTime_besideTwoNames, ?_⟩
  intro hprints
  have hexit := hprints.exitCode
  simp only [runCommand, load_twoNames, suggestOutcome, hmaking] at hexit
  cases hexit

end CommandLine

end RecordSearch
