import RecordSearch.Proofs.Controller.AddressWrites
import RecordSearch.Proofs.Controller.Moves
import RecordSearch.Proofs.Controller.SearchGate

/-!
# The end of a controller

A controller holds two desks, and whatever way it comes to its end it has to give
them back, once. There are four ways: it is disposed of, however often; it goes
out of use without that, which disposes of it; it cannot be built because of the
declarations; or it cannot be built because of the wiring, when a controller
exists already and goes out of use. `Holding` and `Released` are what can be said
of the desks before and after, and the only action that leads from one to the other
is the disposal.

After it, everything that is tried leaves the controller as it is. What still
moves is what does not belong to it: the bar is in the hands of others, the form is
typed into, and the backends may answer requests that are still open. They are told
that nobody waits. For this it takes a fact from before the end, namely that
only the search in flight and the preload in flight were awaited; these two
are what a disposal withdraws.
-/

namespace RecordSearch.Controller

variable {ι : Type} {c d : Controller ι}

/-- A controller in use: it has released nothing, and awaits nothing but what it
has in flight. -/
structure Holding (c : Controller ι) : Prop where
  live : c.phase ≠ .disposed
  searches : c.searches.AwaitsOnly (c.flight.map (·.number))
  preloads : c.preloads.AwaitsOnly c.preloadFlight
  releases : c.searches.releases = 0 ∧ c.preloads.releases = 0

/-- A controller at its end: it has released both desks once, and awaits nothing. -/
structure Released (c : Controller ι) : Prop where
  phase : c.phase = .disposed
  closed : c.filters.isClosed = true
  searches : c.searches.AwaitsOnly none
  preloads : c.preloads.AwaitsOnly none
  releases : c.searches.releases = 1 ∧ c.preloads.releases = 1

/-! ## Before the end -/

theorem Holding.congr (h : c.Holding) (hlive : d.phase ≠ .disposed)
    (hsearches : d.searches = c.searches) (hflight : d.flight = c.flight)
    (hpreloads : d.preloads = c.preloads) (hpreload : d.preloadFlight = c.preloadFlight) :
    d.Holding := by
  refine ⟨hlive, ?_, ?_, ?_⟩
  · rw [hsearches, hflight]
    exact h.searches
  · rw [hpreloads, hpreload]
    exact h.preloads
  · rw [hsearches, hpreloads]
    exact h.releases

theorem dropSearch_releases (c : Controller ι) :
    c.dropSearch.searches.releases = c.searches.releases := by
  rw [dropSearch]
  split
  · exact Desk.withdraw_releases _ _
  · rfl

theorem Holding.dropSearch (h : c.Holding) : c.dropSearch.Holding := by
  have hsearches := dropSearch_awaitsOnly h.searches
  have hreleases := dropSearch_releases c
  rw [dropSearch_eq] at hsearches hreleases ⊢
  exact ⟨h.live, hsearches, h.preloads, hreleases.trans h.releases.1, h.releases.2⟩

theorem Holding.dropPreload_awaits (h : c.Holding) :
    c.dropPreload.preloads.AwaitsOnly none := by
  have hpreloads := h.preloads
  rw [dropPreload]
  cases hflight : c.preloadFlight with
  | none =>
      rw [hflight] at hpreloads
      exact hpreloads
  | some number =>
      rw [hflight] at hpreloads
      exact hpreloads.withdraw

theorem dropPreload_releases (c : Controller ι) :
    c.dropPreload.preloads.releases = c.preloads.releases := by
  rw [dropPreload]
  split
  · exact Desk.withdraw_releases _ _
  · rfl

theorem Holding.dropPreload (h : c.Holding) : c.dropPreload.Holding := by
  have hpreloads := h.dropPreload_awaits
  have hreleases := dropPreload_releases c
  rw [dropPreload_eq] at hpreloads hreleases ⊢
  exact ⟨h.live, h.searches, hpreloads, h.releases.1, hreleases.trans h.releases.2⟩

theorem holding_steadfast : Steadfast (Holding (ι := ι)) where
  steady h hd := h.congr (hd.phase ▸ h.live) hd.searches hd.flight hd.preloads hd.preloadFlight
  begun {c} h hcan := by
    have hreleases := (dropSearch_releases c).trans h.releases.1
    rw [beginSearch_of_canSearch hcan]
    exact ⟨Phase.noConfusion, (dropSearch_awaitsOnly h.searches).file _, h.preloads, hreleases,
      h.releases.2⟩
  cleared h := h.dropSearch.congr Phase.noConfusion rfl rfl rfl rfl

theorem Holding.collectChoices (h : c.Holding) : c.collectChoices.Holding := by
  rw [Controller.collectChoices]
  split
  · exact h
  · next number _ =>
      have hpolled : ({ c with preloads := (c.preloads.poll number).2 } : Controller ι).Holding :=
        ⟨h.live, h.searches, h.preloads.poll number, h.releases.1,
          (Desk.poll_releases _ _).trans h.releases.2⟩
      dsimp only
      split
      · exact hpolled
      · exact hpolled.dropPreload.congr hpolled.dropPreload.live rfl rfl rfl rfl
      · exact hpolled.dropPreload
      · exact hpolled.dropPreload

theorem Holding.collectResults (h : c.Holding) : c.collectResults.Holding := by
  rw [Controller.collectResults]
  split
  · exact h
  · next flight _ =>
      have hpolled :
          ({ c with searches := (c.searches.poll flight.number).2 } : Controller ι).Holding :=
        ⟨h.live, h.searches.poll flight.number, h.preloads,
          (Desk.poll_releases _ _).trans h.releases.1, h.releases.2⟩
      dsimp only
      split
      · exact hpolled
      · exact hpolled.dropSearch.congr Phase.noConfusion rfl rfl rfl rfl
      · exact hpolled.dropSearch.congr Phase.noConfusion rfl rfl rfl rfl
      · exact hpolled.dropSearch.congr Phase.noConfusion rfl rfl rfl rfl

/-- Only a disposal ends the use of a controller. -/
theorem Holding.step (h : c.Holding) (hsound : c.Sound) {action : Action ι}
    (hgoesOn : action ≠ .dispose) : (c.step action).Holding := by
  cases action with
  | submit => exact holding_steadfast.submit h hsound
  | turnPage turn => exact holding_steadfast.turnPage h hsound turn
  | followAddress => exact holding_steadfast.followAddress h hsound
  | poll => exact holding_steadfast.poll h Holding.collectChoices Holding.collectResults
  | complete number outcome =>
      exact ⟨h.live, h.searches.complete number outcome, h.preloads,
        (Desk.complete_releases _ _ _).trans h.releases.1, h.releases.2⟩
  | abandon number =>
      exact ⟨h.live, h.searches.abandon number, h.preloads,
        (Desk.abandon_releases _ _).trans h.releases.1, h.releases.2⟩
  | completePreload outcome =>
      exact ⟨h.live, h.searches, h.preloads.complete 0 outcome, h.releases.1,
        (Desk.complete_releases _ _ _).trans h.releases.2⟩
  | abandonPreload =>
      exact ⟨h.live, h.searches, h.preloads.abandon 0, h.releases.1,
        (Desk.abandon_releases _ _).trans h.releases.2⟩
  | takeHandle =>
      rw [step_takeHandle, takeHandle_eq]
      exact h.congr h.live rfl rfl rfl rfl
  | refresh handle =>
      rw [step_refresh, refresh_eq]
      exact h.congr h.live rfl rfl rfl rfl
  | edit _ | visit _ | navigate _ => exact h.congr h.live rfl rfl rfl rfl
  | dispose => exact absurd rfl hgoesOn

/-! ## The end and after -/

theorem Holding.dispose (h : c.Holding) : c.dispose.Released := by
  have hpreloads := h.dropSearch.dropPreload_awaits
  have hreleases := h.dropSearch.dropPreload.releases
  rw [Controller.dispose, if_neg h.live]
  rw [dropPreload_eq] at hpreloads hreleases ⊢
  exact ⟨rfl, rfl, dropSearch_awaitsOnly h.searches, hpreloads, congrArg (· + 1) hreleases.1,
    congrArg (· + 1) hreleases.2⟩

theorem Released.congr (h : c.Released) (hphase : d.phase = c.phase)
    (hfilters : d.filters = c.filters) (hsearches : d.searches = c.searches)
    (hpreloads : d.preloads = c.preloads) : d.Released := by
  refine ⟨hphase.trans h.phase, ?_, ?_, ?_, ?_⟩
  · rw [hfilters]
    exact h.closed
  · rw [hsearches]
    exact h.searches
  · rw [hpreloads]
    exact h.preloads
  · rw [hsearches, hpreloads]
    exact h.releases

/-- At its end a controller refuses everything that can be refused. -/
structure Refuses (c : Controller ι) : Prop where
  submit : c.submit = (.error .disposed, c)
  turnPage : ∀ turn, c.turnPage turn = (.error .disposed, c)
  followAddress : c.followAddress = (.error .disposed, c)
  takeHandle : c.takeHandle = (.error .disposed, c)
  refresh : ∀ handle < c.handles, c.refresh handle = (some (.error .disposed), c)
  poll : c.poll = c
  dispose : c.dispose = c

theorem refuses_of_disposed (h : c.phase = .disposed) : c.Refuses where
  submit := whenLive_of_disposed h _
  turnPage _ := whenLive_of_disposed h _
  followAddress := whenLive_of_disposed h _
  takeHandle := whenLive_of_disposed h _
  refresh handle hhandle := by rw [refresh, if_pos hhandle, if_pos h]
  poll := poll_of_disposed h
  dispose := by rw [dispose, if_pos h]

/-- What others than the controller can still do to it. -/
structure Rests (c d : Controller ι) (actions : List (Action ι)) : Prop where
  /-- Form, bar and desks apart, all is as it was. -/
  eq : d = { c with
    form := d.form, addressBar := d.addressBar, searches := d.searches, preloads := d.preloads }
  addressBar : d.addressBar = hosted c.addressBar actions
  /-- Nothing is asked for. -/
  searches : d.searches.subjects = c.searches.subjects
  preloads : d.preloads.subjects = c.preloads.subjects

theorem Rests.refl (c : Controller ι) : Rests c c [] :=
  ⟨rfl, rfl, rfl, rfl⟩

theorem Rests.cons {e : Controller ι} {action : Action ι} {rest : List (Action ι)}
    (h : Rests c d [action]) (h' : Rests d e rest) : Rests c e (action :: rest) := by
  refine ⟨?_, ?_, h'.searches.trans h.searches, h'.preloads.trans h.preloads⟩
  · rw [h'.eq, h.eq]
  · rw [h'.addressBar, h.addressBar]
    rfl

/-- Every action leaves a controller at its end there, and at rest. -/
theorem Released.step (h : c.Released) (action : Action ι) :
    (c.step action).Released ∧ Rests c (c.step action) [action] := by
  have hrefuses := refuses_of_disposed h.phase
  -- What is refused leaves everything as it was.
  have hsame (heq : c.step action = c) (hbar : action.onBar c.addressBar = c.addressBar) :
      (c.step action).Released ∧ Rests c (c.step action) [action] := by
    rw [heq]
    exact ⟨h, rfl, hbar.symm, rfl, rfl⟩
  cases action with
  | submit => exact hsame (congrArg (·.2) hrefuses.submit) rfl
  | turnPage turn => exact hsame (congrArg (·.2) (hrefuses.turnPage turn)) rfl
  | followAddress => exact hsame (congrArg (·.2) hrefuses.followAddress) rfl
  | poll => exact hsame hrefuses.poll rfl
  | takeHandle => exact hsame (congrArg (·.2) hrefuses.takeHandle) rfl
  | refresh handle =>
      refine hsame ?_ rfl
      rw [step_refresh, refresh, if_pos h.phase]
      split
      · rfl
      · rfl
  | dispose => exact hsame hrefuses.dispose rfl
  | edit _ | visit _ | navigate _ =>
      exact ⟨h.congr rfl rfl rfl rfl, rfl, rfl, rfl, rfl⟩
  | complete number outcome =>
      refine ⟨⟨h.phase, h.closed, h.searches.complete number outcome, h.preloads, ?_, h.releases.2⟩,
        rfl, rfl, ?_, rfl⟩
      · exact (Desk.complete_releases _ _ _).trans h.releases.1
      · exact Desk.complete_subjects c.searches number outcome
  | abandon number =>
      refine ⟨⟨h.phase, h.closed, h.searches.abandon number, h.preloads, ?_, h.releases.2⟩,
        rfl, rfl, ?_, rfl⟩
      · exact (Desk.abandon_releases _ _).trans h.releases.1
      · exact Desk.abandon_subjects c.searches number
  | completePreload outcome =>
      refine ⟨⟨h.phase, h.closed, h.searches, h.preloads.complete 0 outcome, h.releases.1, ?_⟩,
        rfl, rfl, rfl, ?_⟩
      · exact (Desk.complete_releases _ _ _).trans h.releases.2
      · exact Desk.complete_subjects c.preloads 0 outcome
  | abandonPreload =>
      refine ⟨⟨h.phase, h.closed, h.searches, h.preloads.abandon 0, h.releases.1, ?_⟩,
        rfl, rfl, rfl, ?_⟩
      · exact (Desk.abandon_releases _ _).trans h.releases.2
      · exact Desk.abandon_subjects c.preloads 0

theorem Released.run (h : c.Released) (actions : List (Action ι)) :
    (c.run actions).Released ∧ Rests c (c.run actions) actions := by
  induction actions generalizing c with
  | nil => exact ⟨h, .refl c⟩
  | cons action rest ih =>
      obtain ⟨hstep, hrests⟩ := h.step action
      obtain ⟨hrun, hrest⟩ := ih hstep
      exact ⟨hrun, hrests.cons hrest⟩

/-! ## A run -/

/-- A controller is in use until it is disposed of. -/
theorem Holding.run (h : c.Holding) (hsound : c.Sound) (actions : List (Action ι)) :
    (.dispose ∈ actions → (c.run actions).Released) ∧
      (.dispose ∉ actions → (c.run actions).Holding) := by
  induction actions generalizing c with
  | nil => exact ⟨fun hmem => (List.not_mem_nil hmem).elim, fun _ => h⟩
  | cons action rest ih =>
      by_cases hend : action = .dispose
      · -- From the first disposal on nothing that follows counts, other disposals included.
        subst hend
        exact ⟨fun _ => (h.dispose.run rest).1, fun hnot => absurd List.mem_cons_self hnot⟩
      · obtain ⟨hreleased, hholding⟩ := ih (h.step hsound hend) (hsound.step action)
        refine ⟨fun hmem => hreleased ?_, fun hnot => hholding ?_⟩
        · exact (List.mem_cons.1 hmem).resolve_left fun heq => hend heq.symm
        · exact fun hmem => hnot (List.mem_cons_of_mem _ hmem)

/-- Whether or not it has been disposed of before, a disposal brings it to its end. -/
theorem Holding.run_dispose (h : c.Holding) (hsound : c.Sound) (actions : List (Action ι)) :
    (c.run actions).dispose.Released := by
  by_cases hend : .dispose ∈ actions
  · have hreleased := (h.run hsound actions).1 hend
    rw [(refuses_of_disposed hreleased.phase).dispose]
    exact hreleased
  · exact ((h.run hsound actions).2 hend).dispose

section Create

variable {wiring : Wiring} {specs : List FieldSpec}
  {source : Nat → Query → Treatment (PageAnswer ι)}
  {preloadSource : Nat → Query → Treatment (PageAnswer Choice)} {bar : AddressBar}

theorem holding_blank (filters : Filters) :
    (blank wiring filters (.ofSource source) (.ofSource preloadSource) bar).Holding :=
  ⟨Phase.noConfusion, Desk.awaitsOnly_ofSource source _, Desk.awaitsOnly_ofSource preloadSource _,
    rfl, rfl⟩

theorem holding_of_create
    (h : create wiring specs (.ofSource source) (.ofSource preloadSource) bar = .ok c) :
    c.Holding := by
  obtain ⟨filters, _, _, rfl⟩ := create_eq_ok_iff.1 h
  have harrived : (arrived wiring filters (.ofSource source) (.ofSource preloadSource)
      bar).Holding :=
    ⟨Phase.noConfusion, Desk.awaitsOnly_ofSource source _,
      (Desk.awaitsOnly_ofSource preloadSource none).file _, rfl, rfl⟩
  rw [started]
  split
  · exact holding_steadfast.beginSearch harrived
  · exact harrived

/-- A controller that cannot be built has released both desks. -/
theorem releases_of_refusal {refusal : Refusal ι}
    (h : create wiring specs (.ofSource source) (.ofSource preloadSource) bar = .error refusal) :
    refusal.searches.releases = 1 ∧ refusal.preloads.releases = 1 := by
  rw [create] at h
  split at h
  · cases h
    exact ⟨rfl, rfl⟩
  · next filters hfilters =>
      -- What fails after this point fails for want of a field.
      cases hfind : wiring.wiredFields.find? fun name => !filters.contains name with
      | some name =>
          rw [launch_of_missing hfind] at h
          cases h
          exact (holding_blank filters).dispose.releases
      | none =>
          rw [launch_of_wired hfilters hfind] at h
          cases h

end Create

/-! ## What can be relied on -/

theorem dispose_preloads_subjects (c : Controller ι) :
    c.dispose.preloads.subjects = c.preloads.subjects := by
  rw [dispose]
  split
  · rfl
  · show c.dropSearch.dropPreload.preloads.subjects = c.preloads.subjects
    rw [dropPreload]
    split
    · rw [dropSearch_eq]
      exact Desk.withdraw_subjects _ _
    · rw [dropSearch_eq]

theorem dispose_fields (c : Controller ι) : c.dispose.filters.fields = c.filters.fields := by
  rw [dispose]
  split
  · rfl
  · rw [dropPreload_eq, dropSearch_eq]
    rfl

/-- Any state `d` after the disposal of `c`. -/
structure AtEnd (c : Controller ι) (later : List (Action ι)) (d : Controller ι) : Prop where
  phase : d.phase = .disposed
  refuses : d.Refuses
  /-- The handles given out before are those that are refused. -/
  handles : d.handles = c.handles
  canceled : ∀ number subject r outcome, d.searches.filed[number]? = some (subject, r) →
    (d.searches.complete number outcome).1 =
      if r.answerable then some (.error .canceled) else none
  canceledPreload : ∀ number subject r outcome, d.preloads.filed[number]? = some (subject, r) →
    (d.preloads.complete number outcome).1 =
      if r.answerable then some (.error .canceled) else none
  searches : d.searches.subjects = c.searches.subjects
  preloads : d.preloads.subjects = c.preloads.subjects
  addressBar : d.addressBar = hosted c.addressBar later
  fields : d.filters.fields = c.filters.fields
  closed : d.filters.isClosed = true
  results : d.results = c.results
  lastError : d.lastError = c.lastError
  releases : d.searches.releases = 1 ∧ d.preloads.releases = 1

theorem Released.atEnd (h : c.dispose.Released) (later : List (Action ι)) :
    AtEnd c later (c.dispose.run later) := by
  obtain ⟨hreleased, hrests⟩ := h.run later
  have hkept := dispose_eq c
  refine {
    phase := hreleased.phase
    refuses := refuses_of_disposed hreleased.phase
    handles := ?_
    canceled := fun _ _ _ outcome hentry =>
      hreleased.searches.refuses hentry (Option.some_ne_none _).symm outcome
    canceledPreload := fun _ _ _ outcome hentry =>
      hreleased.preloads.refuses hentry (Option.some_ne_none _).symm outcome
    searches := hrests.searches.trans (dispose_subjects c)
    preloads := hrests.preloads.trans (dispose_preloads_subjects c)
    addressBar := ?_
    fields := ?_
    closed := hreleased.closed
    results := ?_
    lastError := ?_
    releases := hreleased.releases }
  · rw [hrests.eq, hkept]
  · rw [hrests.addressBar, hkept]
  · rw [hrests.eq]
    exact dispose_fields c
  · rw [hrests.eq, hkept]
  · rw [hrests.eq, hkept]

/-- A controller that cannot be built has released its desks, once. One that can be
built has released nothing until it is disposed of. Disposed of then, before or
again, it has released its desks once in whatever follows, takes part in
nothing, and leaves all that it holds and shows as it was. -/
theorem disposal_final (wiring : Wiring) (specs : List FieldSpec)
    (source : Nat → Query → Treatment (PageAnswer ι))
    (preloadSource : Nat → Query → Treatment (PageAnswer Choice)) (bar : AddressBar) :
    match create wiring specs (.ofSource source) (.ofSource preloadSource) bar with
    | .error refusal => refusal.searches.releases = 1 ∧ refusal.preloads.releases = 1
    | .ok c => ∀ actions : List (Action ι),
      (.dispose ∉ actions →
        (c.run actions).searches.releases = 0 ∧ (c.run actions).preloads.releases = 0) ∧
      ∀ later, AtEnd (c.run actions) later ((c.run actions).dispose.run later) := by
  split
  · next refusal hrefused => exact releases_of_refusal hrefused
  · next c hcreate =>
      have hholding := holding_of_create hcreate
      have hsound := sound_of_create hcreate
      intro actions
      exact ⟨fun hgoesOn => ((hholding.run hsound actions).2 hgoesOn).releases,
        (hholding.run_dispose hsound actions).atEnd⟩

/-- A search is open and a handle is out when the controller is disposed of, twice. -/
example :
    (match (create .default standardFields (.ofSource fun _ _ => .hold)
        (.ofSource fun _ _ => .hold) (.ofUrl "/search?q=a") :
          Except (Refusal Unit) (Controller Unit)) with
      | .ok c =>
        let d := c.run [.takeHandle, .dispose, .edit (.text "b"), .submit, .poll, .dispose]
        decide ((d.searches.complete 0 (.error ⟨"late"⟩)).1 = some (.error .canceled) ∧
          (d.refresh 0).1 = some (.error .disposed) ∧ d.searches.size = 1 ∧
          d.searches.releases = 1 ∧ d.preloads.releases = 1)
      | .error _ => false) = true := by
  decide +kernel

end RecordSearch.Controller
