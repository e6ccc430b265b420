import Mathlib.Data.List.Induction
import RecordSearch.Debouncer

/-!
# What a debouncer releases, told by its history

A debouncer remembers three things, and all that it does can be told without them,
from what was pushed, flushed and cleared before. An input waits if it was pushed
last and since then nothing was cleared and every flush came too early. A flush
releases the input that waits once it has rested for the window, unless it is what
was released last since the last clearing.

Both are of one form: something happened, and since then nothing that undoes it.
`Since` is that form. A longer history answers it by one rule, and the same rule is
kept by the two fields of the debouncer, so they agree after every history.

Times must not run backwards for this. An input from the future counts as one of
now, so that without a window a flush finds it rested before it was made.
-/

namespace RecordSearch

/-- At some place of a history a thing happened, and all that followed let it
stand. Both may depend on what was before. -/
def Since {α : Type} (happens lets : List α → α → Prop) (history : List α) : Prop :=
  ∃ before action after, history = before ++ action :: after ∧ happens before action ∧
    ∀ middle next later, after = middle ++ next :: later →
      lets (before ++ action :: middle) next

section Since

variable {α : Type} {happens lets : List α → α → Prop} {history : List α} {action : α}

theorem not_since_nil : ¬ Since happens lets [] := by
  rintro ⟨before, action, after, hsplit, _⟩
  simp at hsplit

theorem since_concat :
    Since happens lets (history ++ [action]) ↔
      happens history action ∨ (lets history action ∧ Since happens lets history) := by
  constructor
  · rintro ⟨before, found, after, hsplit, hfound, hlets⟩
    rcases List.eq_nil_or_concat after with rfl | ⟨rest, last, rfl⟩
    · obtain ⟨rfl, hlast⟩ := List.append_inj' hsplit rfl
      cases hlast
      exact .inl hfound
    · rw [List.concat_eq_append, ← List.cons_append, ← List.append_assoc] at hsplit
      obtain ⟨rfl, hlast⟩ := List.append_inj' hsplit rfl
      cases hlast
      refine .inr ⟨hlets rest action [] (by simp), before, found, rest, rfl, hfound, ?_⟩
      intro middle next later hrest
      exact hlets middle next (later ++ [action]) (by simp [hrest])
  · rintro (hnow | ⟨hlast, before, found, after, rfl, hfound, hlets⟩)
    · refine ⟨history, action, [], rfl, hnow, ?_⟩
      intro middle next later hnil
      simp at hnil
    · refine ⟨before, found, after ++ [action], by simp, hfound, ?_⟩
      intro middle next later hsplit
      rcases List.eq_nil_or_concat later with rfl | ⟨rest, last, rfl⟩
      · obtain ⟨rfl, hnext⟩ := List.append_inj' hsplit rfl
        cases hnext
        exact hlast
      · rw [List.concat_eq_append, ← List.cons_append, ← List.append_assoc] at hsplit
        obtain ⟨hrest, _⟩ := List.append_inj' hsplit rfl
        exact hlets middle next rest hrest

end Since

namespace Debouncer

/-! ## Histories -/

/-- When an action is carried out; clearing has no time. -/
def Action.time? : Action → Option Nat
  | .push _ now | .flush now => some now
  | .clear => none

/-- Times never run backwards. -/
def Chronological (history : List Action) : Prop :=
  (history.filterMap Action.time?).Pairwise (· ≤ ·)

instance (history : List Action) : Decidable (Chronological history) :=
  inferInstanceAs (Decidable (List.Pairwise _ _))

/-- What a flush releases after a history. -/
def release? (window : Nat) (history : List Action) (now : Nat) : Option String :=
  (((ofWindow window).run history).flush now).1

/-- An input was pushed last, and since then nothing was cleared and every flush
came before the input had rested for the window. A later flush consumes it. -/
def Waits (window : Nat) (key : Keystroke) : List Action → Prop :=
  Since (fun _ action => action = .push key.text key.time)
    (fun _ next => ∃ now, next = .flush now ∧ now < key.time + window)

/-- A text was released, and since then nothing was cleared or released. -/
def LastReleased (window : Nat) (text : String) : List Action → Prop :=
  Since (fun before action => ∃ now, action = .flush now ∧ release? window before now = some text)
    (fun before next => next ≠ .clear ∧
      ∀ now, next = .flush now → release? window before now = none)

variable {window now : Nat} {history : List Action} {key : Keystroke} {text : String}

theorem Chronological.prefix {later : List Action} (h : Chronological (history ++ later)) :
    Chronological history := by
  rw [Chronological, List.filterMap_append] at h
  exact (List.pairwise_append.1 h).1

theorem Chronological.le {action later : Action} {after : List Action} {time now : Nat}
    (h : Chronological (history ++ after)) (hbefore : action ∈ history)
    (htime : action.time? = some time) (hafter : later ∈ after) (hnow : later.time? = some now) :
    time ≤ now := by
  rw [Chronological, List.filterMap_append] at h
  exact (List.pairwise_append.1 h).2.2 time (List.mem_filterMap.2 ⟨action, hbefore, htime⟩) now
    (List.mem_filterMap.2 ⟨later, hafter, hnow⟩)

theorem Waits.mem (h : Waits window key history) : .push key.text key.time ∈ history := by
  obtain ⟨before, action, after, rfl, rfl, _⟩ := h
  simp

theorem waits_concat {action : Action} :
    Waits window key (history ++ [action]) ↔
      action = .push key.text key.time ∨
        ((∃ now, action = .flush now ∧ now < key.time + window) ∧ Waits window key history) :=
  since_concat

/-- Which input waits is known from the last push. -/
theorem Waits.of_last {before after : List Action} {pushed : Keystroke}
    (h : Waits window key (before ++ .push pushed.text pushed.time :: after))
    (hlast : ∀ text time, .push text time ∉ after) :
    key = pushed ∧ ∀ now, .flush now ∈ after → now < key.time + window := by
  induction after using List.reverseRecOn with
  | nil =>
      rcases waits_concat.1 h with hpush | ⟨⟨now, hflush, _⟩, _⟩
      · cases key
        cases pushed
        cases hpush
        exact ⟨rfl, by simp⟩
      · cases hflush
  | append_singleton after action ih =>
      rw [← List.cons_append, ← List.append_assoc] at h
      rcases waits_concat.1 h with hpush | ⟨⟨early, rfl, hearly⟩, hbefore⟩
      · exact absurd (by simp [hpush]) (hlast key.text key.time)
      · obtain ⟨hkey, hflushes⟩ := ih hbefore fun text time hmem => hlast text time (by simp [hmem])
        refine ⟨hkey, ?_⟩
        intro now hmem
        rcases List.mem_append.1 hmem with hmem | hmem
        · exact hflushes now hmem
        · obtain rfl : now = early := by simpa using hmem
          exact hearly

/-! ## One action -/

theorem isReady_of_pending {d : Debouncer} (hpending : d.pending = some key) (now : Nat) :
    d.isReady now = decide (d.window ≤ now - key.time) := by
  rw [isReady, hpending]

/-- All that a flush can do. -/
theorem flush_eq (d : Debouncer) (now : Nat) :
    (d.isReady now = false ∧ d.flush now = (none, d)) ∨
    ∃ key, d.pending = some key ∧ d.isReady now = true ∧
      d.flush now = if d.lastReleased = some key.text then (none, { d with pending := none })
        else (some key.text, ⟨d.window, none, some key.text⟩) := by
  rw [flush]
  cases hpending : d.pending with
  | none =>
      refine .inl ⟨?_, rfl⟩
      rw [isReady, hpending]
  | some key =>
      dsimp only
      split
      · next hready => exact .inr ⟨key, rfl, hready, rfl⟩
      · next hearly => exact .inl ⟨eq_false_of_ne_true hearly, rfl⟩

theorem flush_eq_some_iff (d : Debouncer) (now : Nat) (text : String) :
    (d.flush now).1 = some text ↔
      ∃ time, d.pending = some ⟨text, time⟩ ∧ d.window ≤ now - time ∧
        d.lastReleased ≠ some text := by
  rcases d.flush_eq now with ⟨hearly, heq⟩ | ⟨key, hpending, hready, heq⟩
  · rw [heq]
    constructor
    · intro h
      cases h
    · rintro ⟨time, hpending, hrested, _⟩
      rw [isReady_of_pending hpending] at hearly
      exact absurd hrested (of_decide_eq_false hearly)
  · rw [isReady_of_pending hpending] at hready
    rw [heq]
    split
    · next hrepeat =>
        constructor
        · intro h
          cases h
        · rintro ⟨time, hkey, _, hfresh⟩
          obtain rfl := Option.some.inj (hpending.symm.trans hkey)
          exact absurd hrepeat hfresh
    · next hfresh =>
        constructor
        · intro h
          cases h
          exact ⟨key.time, hpending, of_decide_eq_true hready, hfresh⟩
        · rintro ⟨time, hkey, _⟩
          obtain rfl := Option.some.inj (hpending.symm.trans hkey)
          rfl

theorem flush_pending (d : Debouncer) (now : Nat) :
    (d.flush now).2.pending = if d.isReady now then none else d.pending := by
  rcases d.flush_eq now with ⟨hearly, heq⟩ | ⟨key, _, hready, heq⟩
  · rw [heq, hearly, if_neg Bool.false_ne_true]
  · rw [heq, hready, if_pos rfl]
    split
    · rfl
    · rfl

theorem flush_window (d : Debouncer) (now : Nat) : (d.flush now).2.window = d.window := by
  rcases d.flush_eq now with ⟨_, heq⟩ | ⟨key, _, _, heq⟩
  · rw [heq]
  · rw [heq]
    split
    · rfl
    · rfl

/-- A swallowed repetition does not disturb the memory of the last release. -/
theorem flush_lastReleased (d : Debouncer) (now : Nat) :
    (d.flush now).2.lastReleased = (d.flush now).1.or d.lastReleased := by
  rcases d.flush_eq now with ⟨_, heq⟩ | ⟨key, _, _, heq⟩
  · rw [heq]
    rfl
  · rw [heq]
    split
    · rfl
    · rfl

/-! ## After a history -/

theorem run_concat (d : Debouncer) (history : List Action) (action : Action) :
    d.run (history ++ [action]) = ((d.run history).perform action).2 :=
  List.foldl_append

theorem run_window (window : Nat) (history : List Action) :
    ((ofWindow window).run history).window = window := by
  induction history using List.reverseRecOn with
  | nil => rfl
  | append_singleton history action ih =>
      rw [run_concat]
      cases action with
      | push text now => exact ih
      | flush now => exact (flush_window _ now).trans ih
      | clear => exact ih

theorem pending_iff (h : Chronological history) :
    ((ofWindow window).run history).pending = some key ↔ Waits window key history := by
  induction history using List.reverseRecOn with
  | nil =>
      refine iff_of_false ?_ not_since_nil
      intro hpending
      cases hpending
  | append_singleton history action ih =>
      have ih := ih h.prefix
      rw [run_concat, waits_concat]
      cases action with
      | push text now =>
          cases key
          simp [perform, push]
      | clear => simp [perform, clear, ofWindow]
      | flush now =>
          have hready : ((ofWindow window).run history).pending = some key →
              (((ofWindow window).run history).isReady now = false ↔ now < key.time + window) := by
            intro hpending
            have hle : key.time ≤ now :=
              h.le (ih.1 hpending).mem rfl (List.mem_singleton_self _) rfl
            rw [isReady_of_pending hpending, run_window, decide_eq_false_iff_not]
            omega
          show (((ofWindow window).run history).flush now).2.pending = some key ↔ _
          rw [flush_pending]
          constructor
          · intro hafter
            split at hafter
            · cases hafter
            · next hnot =>
                have hearly := (hready hafter).1 (eq_false_of_ne_true hnot)
                exact .inr ⟨⟨now, rfl, hearly⟩, ih.1 hafter⟩
          · rintro (hpush | ⟨⟨early, hflush, hearly⟩, hwaits⟩)
            · cases hpush
            · cases hflush
              have hpending := ih.2 hwaits
              rw [(hready hpending).2 hearly, if_neg Bool.false_ne_true]
              exact hpending

theorem lastReleased_iff :
    ((ofWindow window).run history).lastReleased = some text ↔
      LastReleased window text history := by
  induction history using List.reverseRecOn with
  | nil =>
      refine iff_of_false ?_ not_since_nil
      intro hreleased
      cases hreleased
  | append_singleton history action ih =>
      rw [run_concat, LastReleased, since_concat, ← LastReleased, ← ih]
      cases action with
      | push text now => simp [perform, push]
      | clear => simp [perform, clear, ofWindow]
      | flush now =>
          show (((ofWindow window).run history).flush now).2.lastReleased = some text ↔ _
          rw [flush_lastReleased, ← release?]
          cases hreleased : release? window history now with
          | none => simp [hreleased]
          | some released => simp [hreleased]

theorem release?_eq_some_iff (h : Chronological (history ++ [.flush now])) :
    release? window history now = some text ↔
      ∃ time, Waits window ⟨text, time⟩ history ∧ time + window ≤ now ∧
        ¬ LastReleased window text history := by
  rw [release?, flush_eq_some_iff, run_window, Ne, lastReleased_iff]
  constructor
  · rintro ⟨time, hpending, hrested, hfresh⟩
    have hwaits := (pending_iff h.prefix).1 hpending
    have hle : time ≤ now := h.le hwaits.mem rfl (List.mem_singleton_self _) rfl
    exact ⟨time, hwaits, by omega, hfresh⟩
  · rintro ⟨time, hwaits, hrested, hfresh⟩
    exact ⟨time, (pending_iff h.prefix).2 hwaits, by omega, hfresh⟩

/-! ## Pushes and releases -/

/-- A flush releases a push: what it gives is the text of the push, and nothing was
pushed in between. -/
structure Releases (window : Nat) (before : List Action) (key : Keystroke)
    (after : List Action) (now : Nat) : Prop where
  text : release? window (before ++ .push key.text key.time :: after) now = some key.text
  last : ∀ text time, .push text time ∉ after

/-- What waits when a push is released is this push, which has rested for the window. -/
theorem Releases.rested {before after : List Action} (h : Releases window before key after now)
    (hchron : Chronological (before ++ .push key.text key.time :: after ++ [.flush now])) :
    key.time + window ≤ now ∧ ∀ earlier, .flush earlier ∈ after → earlier < key.time + window := by
  obtain ⟨time, hwaits, hrested, _⟩ := (release?_eq_some_iff hchron).1 h.text
  obtain ⟨hkey, hearly⟩ := hwaits.of_last h.last
  obtain rfl : time = key.time := congrArg Keystroke.time hkey
  exact ⟨hrested, hearly⟩

/-- What can be said of a flush after a history. -/
structure Debounced (window : Nat) (history : List Action) (now : Nat) : Prop where
  release_iff : ∀ text, release? window history now = some text ↔
    ∃ time, Waits window ⟨text, time⟩ history ∧ time + window ≤ now ∧
      ¬ LastReleased window text history
  /-- What is released was pushed, and no push came after it. -/
  released : ∀ text, release? window history now = some text →
    ∃ before time after, history = before ++ .push text time :: after ∧
      Releases window before ⟨text, time⟩ after now
  /-- A push that was released before is not released again. -/
  once : ∀ before key after earlier later,
    history = before ++ .push key.text key.time :: (after ++ .flush earlier :: later) →
    Releases window before key after earlier →
    ¬ Releases window before key (after ++ .flush earlier :: later) now
  /-- A push that is released is the last of its burst: any later one comes when the window
  has passed. -/
  burst : ∀ before key after rest text time,
    history = before ++ .push key.text key.time :: after →
    Releases window before key after now →
    Chronological (history ++ .flush now :: rest) → .push text time ∈ rest →
    key.time + window ≤ time
  /-- Two releases differ if nothing was cleared or released in between. -/
  differ : ∀ before earlier between text,
    history = before ++ .flush earlier :: between →
    release? window before earlier = some text → .clear ∉ between →
    (∀ middle t later, between = middle ++ .flush t :: later →
      release? window (before ++ .flush earlier :: middle) t = none) →
    release? window history now ≠ some text

theorem debounced_of_chronological (window : Nat) (history : List Action) (now : Nat)
    (h : Chronological (history ++ [.flush now])) : Debounced window history now where
  release_iff := fun text => release?_eq_some_iff h
  released := by
    intro text hreleased
    obtain ⟨time, hwaits, _⟩ := (release?_eq_some_iff h).1 hreleased
    obtain ⟨before, action, after, rfl, rfl, hlets⟩ := hwaits
    refine ⟨before, time, after, rfl, hreleased, ?_⟩
    intro other t hmem
    obtain ⟨middle, later, rfl⟩ := List.append_of_mem hmem
    obtain ⟨early, hflush, _⟩ := hlets middle _ later rfl
    cases hflush
  once := by
    rintro before key after earlier later rfl hfirst hagain
    -- The first release came when the push had rested, and then nothing was left to wait.
    have hearly := (hagain.rested h).2 earlier (by simp)
    have hlong : Chronological ((before ++ .push key.text key.time :: after ++
        [.flush earlier]) ++ (later ++ [.flush now])) := by
      simpa using h
    have hrested := (hfirst.rested hlong.prefix).1
    omega
  burst := by
    rintro before key after rest text time rfl hreleases hchron hmem
    have hrested := (hreleases.rested h).1
    have hlater : Chronological ((before ++ .push key.text key.time :: after ++ [.flush now]) ++
        rest) := by
      simpa using hchron
    have hflush : .flush now ∈ before ++ .push key.text key.time :: after ++ [.flush now] := by
      simp
    have hle : now ≤ time := hlater.le hflush rfl hmem rfl
    omega
  differ := by
    rintro before earlier between text rfl hreleased hclear hquiet hagain
    obtain ⟨_, _, _, hfresh⟩ := (release?_eq_some_iff h).1 hagain
    refine hfresh ⟨before, .flush earlier, between, rfl, ⟨earlier, rfl, hreleased⟩, ?_⟩
    intro middle next later hsplit
    constructor
    · rintro rfl
      exact hclear (by simp [hsplit])
    · rintro t rfl
      exact hquiet middle t later hsplit

/-- A repetition is swallowed, a burst follows, and a flush comes a moment too early. -/
theorem debounced_of_retyped :
    Chronological ([.push "a" 0, .flush 200, .push "a" 300, .flush 500, .push "b" 600,
        .push "ab" 700, .flush 899] ++ [.flush 900]) ∧
      release? 200 [.push "a" 0, .flush 200, .push "a" 300, .flush 500, .push "b" 600,
        .push "ab" 700, .flush 899] 900 = some "ab" ∧
      Debounced 200 [.push "a" 0, .flush 200, .push "a" 300, .flush 500, .push "b" 600,
        .push "ab" 700, .flush 899] 900 :=
  ⟨by decide, by decide, debounced_of_chronological 200 _ 900 (by decide)⟩

end Debouncer

end RecordSearch
