import RecordSearch.Proofs.Controller.Sound

/-!
# Properties of what is awaited and shown

A submission, a page turn, a followed address and the first two stages of a tick
are different for the values. For what is awaited and shown they are much the
same: after some move that does not touch it they begin a search, or turn one
down, or clear what is shown. A property that says nothing about the values is
kept by all of them if it is kept by these three, and this module says so once.
-/

namespace RecordSearch.Controller

variable {ι : Type} {c d : Controller ι} {P : Controller ι → Prop}

/-- The second controller awaits and shows what the first does, in the same phase. -/
structure Steady (c d : Controller ι) : Prop where
  searches : d.searches = c.searches
  preloads : d.preloads = c.preloads
  flight : d.flight = c.flight
  preloadFlight : d.preloadFlight = c.preloadFlight
  results : d.results = c.results
  lastError : d.lastError = c.lastError
  phase : d.phase = c.phase

theorem turnDown_steady (c : Controller ι) : Steady c c.turnDown.2 :=
  ⟨rfl, rfl, rfl, rfl, rfl, rfl, rfl⟩

theorem syncAddress_steady (c : Controller ι) : Steady c c.syncAddress := by
  rw [syncAddress_eq]
  split
  · exact ⟨rfl, rfl, rfl, rfl, rfl, rfl, rfl⟩
  · exact ⟨rfl, rfl, rfl, rfl, rfl, rfl, rfl⟩

/-- A controller that has cleared what it awaits and shows. -/
def cleared (c : Controller ι) : Controller ι :=
  { c.dropSearch with results := none, lastError := none, phase := .ready }

/-- A property of what is awaited and shown that beginning a search and clearing keep. -/
structure Steadfast (P : Controller ι → Prop) : Prop where
  steady : ∀ {c d}, P c → Steady c d → P d
  begun : ∀ {c}, P c → c.canSearch = true → P c.beginSearch.2
  cleared : ∀ {c}, P c → P c.cleared

theorem Steadfast.beginSearch (hP : Steadfast P) (h : P c) : P c.beginSearch.2 := by
  cases hcan : c.canSearch with
  | true => exact hP.begun h hcan
  | false =>
      rw [beginSearch_of_not_canSearch hcan]
      exact hP.steady h (turnDown_steady c)

theorem Steadfast.submit (hP : Steadfast P) (h : P c) (hsound : c.Sound) : P c.submit.2 := by
  rcases hsound.submit_cases with ⟨_, heq⟩ | ⟨_, _, heq⟩ | ⟨_, _, heq⟩
  · rw [heq]
    exact h
  · rw [heq]
    exact hP.steady h (turnDown_steady c)
  · rw [heq]
    exact hP.beginSearch (hP.steady h ⟨rfl, rfl, rfl, rfl, rfl, rfl, rfl⟩)

theorem Steadfast.turnPage (hP : Steadfast P) (h : P c) (hsound : c.Sound) (turn : PageTurn) :
    P (c.turnPage turn).2 := by
  have hpaged : P (c.paged turn) := hP.steady h ⟨rfl, rfl, rfl, rfl, rfl, rfl, rfl⟩
  rcases hsound.turnPage_cases turn with ⟨_, heq⟩ | ⟨_, _, heq⟩ |
    ⟨_, _, ⟨_, _, heq⟩ | ⟨_, _, heq⟩ | ⟨_, heq⟩⟩
  · rw [heq]
    exact h
  · rw [heq]
    exact h
  · rw [heq]
    exact hP.steady h (turnDown_steady c)
  · rw [heq]
    exact hP.beginSearch hpaged
  · rw [heq]
    exact hpaged

theorem Steadfast.followAddress (hP : Steadfast P) (h : P c) (hsound : c.Sound) :
    P c.followAddress.2 := by
  rcases hsound.followAddress_cases with ⟨_, heq⟩ | ⟨_, _, heq⟩ | ⟨_, _, ⟨_, heq⟩ | ⟨_, heq⟩⟩
  · rw [heq]
    exact h
  · rw [heq]
    exact hP.steady h ⟨rfl, rfl, rfl, rfl, rfl, rfl, rfl⟩
  · rw [heq]
    exact hP.beginSearch (hP.steady h ⟨rfl, rfl, rfl, rfl, rfl, rfl, rfl⟩)
  · have hread : P c.read := hP.steady h ⟨rfl, rfl, rfl, rfl, rfl, rfl, rfl⟩
    rw [heq]
    exact hP.cleared hread

theorem Steadfast.serveRefreshes (hP : Steadfast P) (h : P c) : P c.serveRefreshes := by
  have hasked : P { c with refreshes := 0 } :=
    hP.steady h ⟨rfl, rfl, rfl, rfl, rfl, rfl, rfl⟩
  rw [serveRefreshes_eq]
  split
  · exact hP.beginSearch hasked
  · exact hasked

/-- A tick keeps such a property if picking up the two kinds of answers does. -/
theorem Steadfast.poll (hP : Steadfast P) (h : P c)
    (hchoices : ∀ {c : Controller ι}, P c → P c.collectChoices)
    (hresults : ∀ {c : Controller ι}, P c → P c.collectResults) : P c.poll := by
  rw [Controller.poll]
  split
  · exact h
  · exact hresults (hchoices (hP.serveRefreshes (hP.steady h (syncAddress_steady c))))

end RecordSearch.Controller
