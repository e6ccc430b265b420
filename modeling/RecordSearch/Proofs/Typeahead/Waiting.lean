import RecordSearch.Proofs.Typeahead

/-!
# Waiting as long as needed

An adapter tells how long its input has still to rest, so that whoever runs it can sleep
that long. To sleep longer would delay the suggestions, and to sleep shorter would be
for nothing: a tick that comes early finds the input unready and leaves it where it is.

The announced wait and the test for readiness are written separately, each with a
subtraction that stops at zero, the one where the wait is over and the other where time
runs backwards. From the time of the input on they say the same, for any window.

In an adapter other things may happen while it waits. Without new input none of them
touches what the debouncer holds, except for starting over, which drops it.
-/

namespace RecordSearch

namespace Debouncer

variable {d : Debouncer} {key : Keystroke} {now time : Nat}

theorem timeUntilReady_of_pending (hpending : d.pending = some key) (now : Nat) :
    d.timeUntilReady now = some (d.window - (now - key.time)) := by
  rw [timeUntilReady, hpending, Option.map_some]

theorem isReady_of_no_pending (hpending : d.pending = none) (time : Nat) :
    d.isReady time = false := by
  rw [isReady, hpending]

theorem isReady_iff_of_le (hpending : d.pending = some key) (hpushed : key.time ≤ now)
    (hlater : now ≤ time) :
    d.isReady time = true ↔ now + (d.window - (now - key.time)) ≤ time := by
  rw [isReady_of_pending hpending, decide_eq_true_iff]
  omega

theorem timeUntilReady_eq_none_iff : d.timeUntilReady now = none ↔ d.pending = none := by
  rw [timeUntilReady, Option.map_eq_none_iff]

theorem timeUntilReady_eq_zero_iff : d.timeUntilReady now = some 0 ↔ d.isReady now = true := by
  cases hpending : d.pending with
  | none => simp [timeUntilReady, isReady, hpending]
  | some key =>
      rw [timeUntilReady_of_pending hpending, isReady_of_pending hpending, decide_eq_true_iff,
        Option.some.injEq]
      exact Nat.sub_eq_zero_iff_le

theorem flush_of_not_ready (h : d.isReady now = false) : d.flush now = (none, d) := by
  rcases d.flush_eq now with ⟨_, heq⟩ | ⟨key, _, hready, _⟩
  · exact heq
  · cases hready.symm.trans h

end Debouncer

namespace Typeahead

variable {t : Typeahead} {now due : Nat}

/-! ## What an action does to the debouncer -/

theorem land_debouncer (t : Typeahead) : t.land.2.debouncer = t.debouncer := by
  have hcancel (t' : Typeahead) : t'.cancelFlight.debouncer = t'.debouncer := by
    rw [cancelFlight_eq]
  rw [land]
  split
  · rfl
  · dsimp only
    split
    · rfl
    · exact hcancel _
    · exact hcancel _
    · exact hcancel _

theorem poll_debouncer (t : Typeahead) (now : Nat) :
    (t.poll now).2.debouncer = (t.debouncer.flush now).2 := by
  have hturned (term : String) :
      ((t.rested now).turned (some term)).debouncer = (t.debouncer.flush now).2 := by
    rw [turned, cancelFlight_eq, rested]
  rcases t.poll_cases now with ⟨_, heq⟩ | ⟨term, _, ⟨_, heq⟩ | ⟨_, _, _, heq⟩ | ⟨_, _, heq⟩⟩
  · rw [heq]
    exact land_debouncer _
  · rw [heq]
    exact hturned term
  · rw [heq]
    exact hturned term
  · rw [heq, land_debouncer]
    exact hturned term

/-- Whether an action starts over. -/
def Action.isReset : Action → Bool
  | .reset => true
  | _ => false

/-- What may happen in the time from `now` until `due`, without any input. -/
def Action.Between (now due : Nat) : Action → Prop
  | .push _ _ => False
  | .poll time => now ≤ time ∧ time < due
  | .reset | .complete _ _ | .abandon _ => True

theorem perform_debouncer {action : Action} (haction : action.Between now due)
    (hearly : ∀ time, now ≤ time → time < due → t.debouncer.isReady time = false) :
    (t.perform action).2.debouncer =
      if action.isReset then t.debouncer.clear else t.debouncer := by
  cases action with
  | push _ _ => exact absurd haction id
  | poll time =>
      show (t.poll time).2.debouncer = t.debouncer
      rw [poll_debouncer, Debouncer.flush_of_not_ready (hearly time haction.1 haction.2)]
  | reset =>
      show t.reset.debouncer = t.debouncer.clear
      rw [reset, cancelFlight_eq]
  | complete _ _ => rfl
  | abandon _ => rfl

/-- While an input is not ready, the debouncer stays as it is, or is cleared. -/
theorem run_debouncer {actions : List Action}
    (hactions : ∀ action ∈ actions, action.Between now due)
    (hearly : ∀ time, now ≤ time → time < due → t.debouncer.isReady time = false) :
    (t.run actions).debouncer =
      if actions.any Action.isReset then t.debouncer.clear else t.debouncer := by
  induction actions generalizing t with
  | nil => rfl
  | cons action rest ih =>
      have hrest := fun next hnext => hactions next (List.mem_cons_of_mem action hnext)
      have hstep := perform_debouncer (hactions action List.mem_cons_self) hearly
      rw [run, List.foldl_cons, ← run, List.any_cons]
      cases hreset : action.isReset with
      | false =>
          rw [hreset, if_neg Bool.false_ne_true] at hstep
          rw [Bool.false_or, ih hrest (by rwa [hstep]), hstep]
      | true =>
          rw [hreset, if_pos rfl] at hstep
          have hnever : ∀ time, now ≤ time → time < due →
              (t.perform action).2.debouncer.isReady time = false := by
            intro time _ _
            rw [hstep]
            exact Debouncer.isReady_of_no_pending rfl time
          rw [Bool.true_or, if_pos rfl, ih hrest hnever, hstep]
          exact ite_self _

/-! ## The announced wait -/

/-- The announced wait is the time until the input is ready, no longer and no shorter. An
adapter whose debouncer this is, after anything that may happen meanwhile but new input,
still holds the input, unless it started over, and after a tick at the end of the wait holds
none: the tick turned to it, or swallowed it as a repetition. -/
theorem timeUntilReady_exact (d : Debouncer) (now : Nat) :
    (d.timeUntilReady now = none ↔ d.pending = none) ∧
    (d.timeUntilReady now = some 0 ↔ d.isReady now = true) ∧
    ∀ key, d.pending = some key → key.time ≤ now → ∃ wait, d.timeUntilReady now = some wait ∧
      (∀ time, now ≤ time → time < now + wait → d.isReady time = false) ∧
      (∀ time, now + wait ≤ time → d.isReady time = true) ∧
      ∀ (t : Typeahead) (actions : List Action), t.debouncer = d →
        (∀ action ∈ actions, action.Between now (now + wait)) →
          t.timeUntilReady now = some wait ∧
          (actions.any Action.isReset = false →
            (t.run actions).debouncer = d ∧
            (t.run actions).released (now + wait) =
              if d.lastReleased = some key.text then none else some key.text) ∧
          ((t.run actions).poll (now + wait)).2.debouncer.pending = none := by
  refine ⟨Debouncer.timeUntilReady_eq_none_iff, Debouncer.timeUntilReady_eq_zero_iff, ?_⟩
  intro key hpending hpushed
  have hwait := Debouncer.timeUntilReady_of_pending hpending now
  have hearly : ∀ time, now ≤ time → time < now + (d.window - (now - key.time)) →
      d.isReady time = false := by
    intro time hlater hshort
    rw [← Bool.not_eq_true, Debouncer.isReady_iff_of_le hpending hpushed hlater]
    omega
  have hready : ∀ time, now + (d.window - (now - key.time)) ≤ time → d.isReady time = true :=
    fun time hdue => (Debouncer.isReady_iff_of_le hpending hpushed (by omega)).2 hdue
  refine ⟨_, hwait, hearly, hready, ?_⟩
  intro t actions ht hactions
  subst ht
  have hrun := run_debouncer hactions hearly
  refine ⟨hwait, fun hreset => ?_, ?_⟩
  · rw [hreset, if_neg Bool.false_ne_true] at hrun
    refine ⟨hrun, ?_⟩
    rw [released, hrun]
    rcases t.debouncer.flush_eq (now + (t.debouncer.window - (now - key.time))) with
      ⟨hnot, _⟩ | ⟨released, hreleased, _, heq⟩
    · cases (hready _ (Nat.le_refl _)).symm.trans hnot
    · obtain rfl := Option.some.inj (hpending.symm.trans hreleased)
      rw [heq]
      split
      · rfl
      · rfl
  · rw [poll_debouncer, Debouncer.flush_pending, hrun]
    cases actions.any Action.isReset with
    | true => exact ite_self _
    | false =>
        rw [if_neg Bool.false_ne_true, hready _ (Nat.le_refl _)]
        rfl

/-- An input rests for the whole of a window, and a tick and an answer come meanwhile. -/
theorem timeUntilReady_exact_typed :
    let d : Debouncer := ⟨200, some ⟨"acme", 1000⟩, some "ac"⟩
    d.timeUntilReady 1050 = some 150 ∧ ∀ t : Typeahead, t.debouncer = d →
      (t.run [.poll 1199, .complete 0 (.ok ["ace"])]).debouncer = d ∧
      (t.run [.poll 1199, .complete 0 (.ok ["ace"])]).released 1200 = some "acme" ∧
      ((t.run [.poll 1199, .complete 0 (.ok ["ace"])]).poll 1200).2.debouncer.pending = none := by
  intro d
  obtain ⟨wait, hwait, _, _, hadapter⟩ :=
    (timeUntilReady_exact d 1050).2.2 ⟨"acme", 1000⟩ rfl (by decide)
  obtain rfl : 150 = wait := Option.some.inj hwait
  refine ⟨rfl, fun t ht => ?_⟩
  have hactions : ∀ action ∈ [Action.poll 1199, .complete 0 (.ok ["ace"])],
      action.Between 1050 (1050 + 150) := by
    simp [Action.Between]
  obtain ⟨_, hheld, hconsumed⟩ := hadapter t _ ht hactions
  exact ⟨(hheld rfl).1, (hheld rfl).2, hconsumed⟩

end Typeahead

end RecordSearch
