import RecordSearch.Proofs.Controller.Moves
import RecordSearch.Proofs.Controller.ShownResults

/-!
# What the phase says

The phase, the search in flight, the results and the error are four fields that
different operations write at different times. They are not independent: the
phase says which of the other three can be there. `Coherent` is the table, one
row a phase, and it is what the induction over a run carries.

Two of its entries are not what one would ask for first. A search in flight
leaves neither results nor an error beside it; without this a failure could come
to stand next to results of an earlier search. And a controller that has been
torn down keeps what it showed, so its row has to remember that this was not
both.
-/

namespace RecordSearch.Controller

variable {ι : Type} {c d : Controller ι}

/-- What a controller awaits and shows, phase by phase. -/
def Coherent (c : Controller ι) : Prop :=
  match c.phase with
  | .initializing => False
  | .ready => c.flight = none ∧ c.lastError = none
  | .searching => c.flight ≠ none ∧ c.results = none ∧ c.lastError = none
  | .failed => c.flight = none ∧ c.results = none ∧ c.lastError ≠ none
  | .disposed => c.flight = none ∧ (c.results = none ∨ c.lastError = none)

theorem Coherent.congr (h : c.Coherent) (hphase : d.phase = c.phase)
    (hflight : d.flight = c.flight) (hresults : d.results = c.results)
    (herror : d.lastError = c.lastError) : d.Coherent := by
  rw [Coherent, hphase, hflight, hresults, herror]
  exact h

/-- A search in flight has nothing beside it. -/
theorem Coherent.alone (h : c.Coherent) (hflight : c.flight ≠ none) :
    c.results = none ∧ c.lastError = none := by
  rw [Coherent] at h
  split at h
  · exact h.elim
  · exact absurd h.1 hflight
  · exact h.2
  · exact absurd h.1 hflight
  · exact absurd h.1 hflight

/-- Whatever the phase, there are not both results and an error. -/
theorem Coherent.results_or_lastError (h : c.Coherent) :
    c.results = none ∨ c.lastError = none := by
  rw [Coherent] at h
  split at h
  · exact h.elim
  · exact .inr h.2
  · exact .inl h.2.1
  · exact .inl h.2.1
  · exact h.2

/-! ## A step -/

/-- Values have no place in the table, so the moves that matter are few. -/
theorem coherent_steadfast : Steadfast (Coherent (ι := ι)) where
  steady h hd := h.congr hd.phase hd.flight hd.results hd.lastError
  begun _ hcan := by
    rw [beginSearch_of_canSearch hcan]
    exact ⟨Option.some_ne_none _, rfl, rfl⟩
  cleared {c} _ := ⟨dropSearch_flight c, rfl⟩

theorem Coherent.collectChoices (h : c.Coherent) : c.collectChoices.Coherent := by
  rw [collectChoices_eq]
  exact h.congr rfl rfl rfl rfl

theorem coherent_showPage (c : Controller ι) (page : ResultPage ι) :
    (c.showPage page).Coherent :=
  ⟨dropSearch_flight c, rfl⟩

theorem coherent_showFailure (hresults : c.results = none) (error : SearchError) :
    (c.showFailure error).Coherent :=
  ⟨dropSearch_flight c, (dropSearch_results c).trans hresults, Option.some_ne_none error⟩

theorem Coherent.collectResults (h : c.Coherent) : c.collectResults.Coherent := by
  rw [Controller.collectResults]
  split
  · exact h
  · next flight hflight =>
      -- The search that fails here was in flight, so there were no results.
      have hresults : ({ c with searches := (c.searches.poll flight.number).2 } :
          Controller ι).results = none :=
        (h.alone (by rw [hflight]; exact Option.some_ne_none flight)).1
      dsimp only
      split
      · exact h.congr rfl rfl rfl rfl
      · exact coherent_showPage _ _
      · exact coherent_showFailure hresults _
      · exact coherent_showFailure hresults _

theorem dispose_flight (h : c.phase ≠ .disposed) : c.dispose.flight = none := by
  rw [dispose, if_neg h, dropPreload_eq]
  exact dropSearch_flight c

theorem Coherent.dispose (h : c.Coherent) : c.dispose.Coherent := by
  by_cases hdisposed : c.phase = .disposed
  · rw [Controller.dispose, if_pos hdisposed]
    exact h
  · have hflight := dispose_flight hdisposed
    rw [dispose_eq] at hflight ⊢
    exact ⟨hflight, h.results_or_lastError⟩

/-- Every action keeps a controller coherent. -/
theorem Coherent.step (h : c.Coherent) (hsound : c.Sound) (action : Action ι) :
    (c.step action).Coherent := by
  cases action with
  | submit => exact coherent_steadfast.submit h hsound
  | turnPage turn => exact coherent_steadfast.turnPage h hsound turn
  | followAddress => exact coherent_steadfast.followAddress h hsound
  | poll => exact coherent_steadfast.poll h Coherent.collectChoices Coherent.collectResults
  | dispose => exact h.dispose
  | _ =>
      rw [step_eq_of_passesBy c rfl]
      exact h.congr rfl rfl rfl rfl

/-! ## A run -/

theorem Coherent.run (h : c.Coherent) (hsound : c.Sound) (actions : List (Action ι)) :
    (c.run actions).Coherent := by
  induction actions generalizing c with
  | nil => exact h
  | cons action rest ih => exact ih (h.step hsound action) (hsound.step action)

variable {wiring : Wiring} {specs : List FieldSpec} {searches : Desk Query (PageAnswer ι)}
  {preloads : Desk Query (PageAnswer Choice)} {bar : AddressBar}

theorem coherent_of_create (h : create wiring specs searches preloads bar = .ok c) :
    c.Coherent := by
  obtain ⟨filters, _, _, rfl⟩ := create_eq_ok_iff.1 h
  have harrived : (arrived wiring filters searches preloads bar).Coherent := ⟨rfl, rfl⟩
  rw [started]
  split
  · exact coherent_steadfast.beginSearch harrived
  · exact harrived

/-- What can be told from the phase. -/
structure PhaseTells (c : Controller ι) : Prop where
  begun : c.phase ≠ .initializing
  searching_iff : c.phase = .searching ↔ c.isSearching = true
  failed_iff : c.phase ≠ .disposed → (c.phase = .failed ↔ c.lastError.isSome = true)
  atMostOne : [c.isSearching, c.results.isSome, c.lastError.isSome].count true ≤ 1
  ready_or_disposed : c.results.isSome = true → c.phase = .ready ∨ c.phase = .disposed

theorem Coherent.atMostOne (h : c.Coherent) :
    [c.isSearching, c.results.isSome, c.lastError.isSome].count true ≤ 1 := by
  by_cases hflight : c.flight = none
  · have hnone : c.isSearching = false := by rw [isSearching, hflight, Option.isSome_none]
    rw [hnone]
    rcases h.results_or_lastError with hresults | herror
    · rw [hresults, Option.isSome_none]
      cases c.lastError.isSome
      all_goals decide
    · rw [herror, Option.isSome_none]
      cases c.results.isSome
      all_goals decide
  · obtain ⟨hresults, herror⟩ := h.alone hflight
    rw [hresults, herror, Option.isSome_none, Option.isSome_none]
    cases c.isSearching
    all_goals decide

theorem Coherent.phaseTells (h : c.Coherent) : c.PhaseTells := by
  have hone := h.atMostOne
  rw [Coherent] at h
  cases hphase : c.phase with
  | initializing =>
      rw [hphase] at h
      exact h.elim
  | ready =>
      rw [hphase] at h
      obtain ⟨hflight, herror⟩ := h
      exact ⟨by simp [hphase], by simp [hphase, isSearching, hflight], by simp [hphase, herror],
        hone, by simp [hphase]⟩
  | searching =>
      rw [hphase] at h
      obtain ⟨hflight, hresults, herror⟩ := h
      have hsome : c.isSearching = true := Option.isSome_iff_ne_none.2 hflight
      exact ⟨by simp [hphase], by simp [hphase, hsome], by simp [hphase, herror], hone,
        by simp [hresults]⟩
  | failed =>
      rw [hphase] at h
      obtain ⟨hflight, hresults, herror⟩ := h
      have hsome : c.lastError.isSome = true := Option.isSome_iff_ne_none.2 herror
      exact ⟨by simp [hphase], by simp [hphase, isSearching, hflight], by simp [hphase, hsome],
        hone, by simp [hresults]⟩
  | disposed =>
      rw [hphase] at h
      exact ⟨by simp [hphase], by simp [hphase, isSearching, h.1], by simp [hphase], hone,
        by simp [hphase]⟩

/-- In every state after it was built, torn down or not, the phase of a controller
tells what it awaits and what it can show. -/
theorem phaseTells_run (hcreate : create wiring specs searches preloads bar = .ok c)
    (actions : List (Action ι)) : (c.run actions).PhaseTells :=
  ((coherent_of_create hcreate).run (sound_of_create hcreate) actions).phaseTells

/-- A search fails, a blank form is turned down after it, and that is the end. -/
def failing : List (Action Unit) :=
  [.complete 0 (.error ⟨"502"⟩), .poll, .edit (.text ""), .submit, .dispose]

/-- The failure is still told then, and nothing else. -/
theorem phaseTells_run_of_failing :
    ∃ c : Controller Unit,
      create .default standardFields (.ofSource fun _ _ => .hold) (.ofSource fun _ _ => .hold)
        (.ofUrl "/search?q=a") = .ok c ∧
      c.PhaseTells ∧ c.phase = .searching ∧
      (c.run (failing.take 4)).PhaseTells ∧ (c.run (failing.take 4)).turnedDown = true ∧
      (c.run (failing.take 4)).phase = .failed ∧
      (c.run failing).PhaseTells ∧ (c.run failing).lastError = some (.queryFailure "502") := by
  obtain ⟨c, hcreate, hcheck⟩ := exists_ok_of_check
    (create .default standardFields (.ofSource fun _ _ => .hold)
      (.ofSource fun _ _ => .hold) (.ofUrl "/search?q=a"))
    (fun c : Controller Unit => decide (c.phase = .searching ∧
      (c.run (failing.take 4)).turnedDown = true ∧ (c.run (failing.take 4)).phase = .failed ∧
      (c.run failing).lastError = some (.queryFailure "502")))
    (by decide +kernel)
  obtain ⟨hsearching, hturnedDown, hfailed, herror⟩ := of_decide_eq_true hcheck
  have htells := phaseTells_run hcreate
  exact ⟨c, hcreate, htells [], hsearching, htells _, hturnedDown, hfailed, htells _, herror⟩

end RecordSearch.Controller
