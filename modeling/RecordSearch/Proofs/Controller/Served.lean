import RecordSearch.Controller.Run
import RecordSearch.Proofs.Controller.AskedPage
import RecordSearch.Proofs.Controller.Moves
import RecordSearch.Proofs.Controller.Settling
import RecordSearch.Proofs.Waiting

/-!
# A backend that answers in time

When the answer to a search comes is up to the backend. For a program that ticks until
nothing is in flight it makes no difference, as long as the time is not up: the page for
the values in effect is shown, or its request stands at the desk, answered or still open.
A tick shows an answered one and changes nothing about an open one, and no second tick
does more than the first. So the wait after a search ends with the page for the values
that were searched.

The other half is the page turns. One that leads somewhere asks for the page that it
leads to, and one that leads nowhere leaves the page shown where it is.
-/

namespace RecordSearch.Controller

variable {ι : Type} {c d : Controller ι} {services : Nat → Service}
  {reply : Query → ResultPage ι}

/-- The source that serves every search by a worker of its own. -/
def served (services : Nat → Service) (reply : Query → ResultPage ι) :
    Nat → Query → Treatment (PageAnswer ι) :=
  fun number q => (services number).treatment (.ok (reply q))

/-- The page for the values in effect is shown. -/
structure ShowsPage (reply : Query → ResultPage ι) (c : Controller ι) : Prop where
  flight : c.flight = none
  results : c.results = some (reply c.query)
  lastError : c.lastError = none

/-- The search for the values in effect is in flight, and its request stands so. -/
structure InFlight (c : Controller ι) (number : Nat) (r : Request (PageAnswer ι)) : Prop where
  flight : c.flight = some ⟨number, c.query⟩
  entry : c.searches.filed[number]? = some (c.query, r)

/-- The page for the values in effect is shown, or it is on its way. -/
def HasPage (services : Nat → Service) (reply : Query → ResultPage ι) (c : Controller ι) : Prop :=
  ShowsPage reply c ∨
    ∃ number, InFlight c number ((services number).treatment (.ok (reply c.query))).opening

/-- A controller in use over a backend that serves its searches so. -/
structure Served (services : Nat → Service) (reply : Query → ResultPage ι) (c : Controller ι) :
    Prop where
  sound : c.Sound
  heeded : ∀ name ∈ c.wiring.neededFields, Heeded c.wiring c.filters.specs name
  live : c.phase ≠ .disposed
  source : c.searches.source = served services reply
  engaged : c.engaged = true
  canSearch : c.canSearch = true
  /-- No refresh was asked for. -/
  refreshes : c.refreshes = 0

/-! ## The page and the moves -/

theorem ShowsPage.alike (h : ShowsPage reply c) (hd : Alike c d) : ShowsPage reply d := by
  refine ⟨hd.flight.trans h.flight, ?_, hd.lastError.trans h.lastError⟩
  rw [hd.results, hd.query, h.results]

theorem InFlight.alike {number : Nat} {r : Request (PageAnswer ι)} (h : InFlight c number r)
    (hd : Alike c d) : InFlight d number r := by
  refine ⟨?_, ?_⟩
  · rw [hd.flight, hd.query, h.flight]
  · rw [hd.searches, hd.query, h.entry]

theorem ShowsPage.awaited (h : ShowsPage reply c) (answer : Query → PageAnswer ι) :
    (waiting answer).awaited c = none :=
  congrArg (Option.map Flight.number) h.flight

theorem InFlight.awaited {number : Nat} {r : Request (PageAnswer ι)} (h : InFlight c number r)
    (answer : Query → PageAnswer ι) : (waiting answer).awaited c = some number :=
  congrArg (Option.map Flight.number) h.flight

theorem dropSearch_source (c : Controller ι) :
    c.dropSearch.searches.source = c.searches.source := by
  rw [dropSearch_searches]
  split
  · rfl
  · rfl

/-- A search that is begun is in flight. -/
theorem Served.beginSearch (h : Served services reply c) :
    Served services reply c.beginSearch.2 ∧
      InFlight c.beginSearch.2 c.searches.size
        ((services c.searches.size).treatment (.ok (reply c.beginSearch.2.query))).opening := by
  have hbeside := beginSearch_beside c
  have hleads := beginSearch_leads c
  have hquery : c.beginSearch.2.query = c.query := hbeside.offered.query
  have hsource : c.dropSearch.searches.source = served services reply := by
    rw [dropSearch_source, h.source]
  have hbegun := beginSearch_of_canSearch h.canSearch
  refine ⟨⟨h.sound.continue (hbeside.continues fun _ => h.live), ?_, ?_, ?_,
    hleads.engaged h.engaged, hbeside.offered.canSearch.trans h.canSearch,
    hleads.refreshes.trans h.refreshes⟩, ?_, ?_⟩
  · rw [hbeside.wiring, hbeside.filters]
    exact h.heeded
  · rw [hbegun]
    exact Phase.noConfusion
  · rw [hbegun]
    exact hsource
  · rw [hquery, hbegun, dropSearch_size]
  · rw [hquery, hbegun]
    refine (Desk.getElem?_file _ _ _).trans ?_
    rw [if_pos (dropSearch_size c).symm, hsource, dropSearch_size]
    rfl

/-! ## Picking up the page -/

theorem ShowsPage.collectResults (h : ShowsPage reply c) : ShowsPage reply c.collectResults := by
  have hidle : c.collectResults = c := by rw [Controller.collectResults, h.flight]
  rw [hidle]
  exact h

/-- A page that is there is picked up. -/
theorem InFlight.showsPage {number : Nat}
    (h : InFlight c number (.answered (.ok (reply c.query)))) :
    ShowsPage reply c.collectResults := by
  have hquery := (showPage_offered (c.answered ⟨number, c.query⟩) (reply c.query)).query
  rw [collectResults_of_flight h.flight h.entry rfl rfl]
  exact ⟨dropSearch_flight _, congrArg (some ∘ reply) hquery.symm, rfl⟩

/-- An open request is left as it is. -/
theorem InFlight.collectResults {number : Nat} (h : InFlight c number .opened) :
    c.collectResults = c :=
  collectResults_of_flight h.flight h.entry rfl rfl

/-- The worker of an open request answers it. -/
theorem InFlight.serve {number : Nat} {service : Service} (h : InFlight c number .opened)
    (hserved : service.InTime) :
    (waiting fun q => .ok (reply q)).serve service number c =
        c.step (.complete number (.ok (reply c.query))) ∧
      InFlight (c.step (.complete number (.ok (reply c.query)))) number
        (.answered (.ok (reply c.query))) := by
  have hdesk : c.searches.serve service (fun q => .ok (reply q)) number =
      (c.searches.complete number (.ok (reply c.query))).2 :=
    Desk.serve_of_answers hserved.answers h.entry
  refine ⟨congrArg (fun searches => ({ c with searches } : Controller ι)) hdesk, h.flight, ?_⟩
  show (c.searches.complete number (.ok (reply c.query))).2.filed[number]? = _
  rw [Desk.complete_eq_touch]
  exact (Desk.entry_touch h.entry _ _).trans (by rw [if_pos rfl]; rfl)

/-- A controller that lives keeps its backend. -/
theorem steadfast_source (source : Nat → Query → Treatment (PageAnswer ι)) :
    Steadfast fun c : Controller ι => c.phase ≠ .disposed ∧ c.searches.source = source where
  steady h hd := by
    rw [hd.phase, hd.searches]
    exact h
  begun {c} h hcan := by
    rw [beginSearch_of_canSearch hcan]
    exact ⟨Phase.noConfusion, (dropSearch_source c).trans h.2⟩
  cleared {c} h := ⟨Phase.noConfusion, (dropSearch_source c).trans h.2⟩

/-! ## A tick -/

theorem source_collectResults {source : Nat → Query → Treatment (PageAnswer ι)}
    (h : c.phase ≠ .disposed ∧ c.searches.source = source) :
    c.collectResults.phase ≠ .disposed ∧ c.collectResults.searches.source = source := by
  rw [collectResults]
  split
  · exact h
  · next flight _ =>
      have hpolled : (c.searches.poll flight.number).2.source = source := by
        rw [Desk.poll_eq_touch]
        exact h.2
      dsimp only
      split
      · exact ⟨h.1, hpolled⟩
      · exact ⟨Phase.noConfusion, (dropSearch_source _).trans hpolled⟩
      · exact ⟨Phase.noConfusion, (dropSearch_source _).trans hpolled⟩
      · exact ⟨Phase.noConfusion, (dropSearch_source _).trans hpolled⟩

theorem Served.poll_eq (h : Served services reply c) :
    c.poll = c.syncAddress.collectChoices.collectResults := by
  have hserved : c.syncAddress.serveRefreshes = c.syncAddress :=
    serveRefreshes_of_served ((syncAddress_leads c).refreshes.trans h.refreshes)
  rw [Controller.poll, if_neg h.live, hserved]

theorem Served.poll (h : Served services reply c) : Served services reply c.poll := by
  have hcontinues := poll_continues c
  have hkept := (steadfast_source (served services reply)).poll ⟨h.live, h.source⟩
    (fun hc => by rwa [collectChoices_eq]) source_collectResults
  refine ⟨h.sound.step .poll, ?_, hkept.1, hkept.2, h.sound.engaged_step .poll h.engaged, ?_,
    (poll_leads h.live).refreshes⟩
  · rw [hcontinues.wiring, hcontinues.specs]
    exact h.heeded
  · rw [(poll_offered h.live).canSearch, canSearch_syncAddress]
    exact h.canSearch

/-! ## But for the page -/

/-- The second controller has the declarations of the first, and its values but
for the page. -/
structure PageApart (c d : Controller ι) : Prop where
  wiring : d.wiring = c.wiring
  specs : d.filters.specs = c.filters.specs
  slots : ∀ spec v, spec.hasKey c.wiring.pageField = false → (spec, v) ∈ c.filters.slots →
    (spec, v) ∈ d.filters.slots

theorem PageApart.refl (c : Controller ι) : PageApart c c :=
  ⟨rfl, rfl, fun _ _ _ hmem => hmem⟩

theorem PageApart.trans {e : Controller ι} (h : PageApart c d) (h' : PageApart d e) :
    PageApart c e := by
  refine ⟨h'.wiring.trans h.wiring, h'.specs.trans h.specs, fun spec v hother hmem => ?_⟩
  exact h'.slots spec v (by rwa [h.wiring]) (h.slots spec v hother hmem)

theorem Offered.pageApart (h : Offered c d) : PageApart c d :=
  ⟨h.wiring, h.specs, fun _ _ _ hmem => by rwa [h.slots]⟩

theorem poll_slots (hlive : c.phase ≠ .disposed) : c.poll.filters.slots = c.filters.slots := by
  rw [(poll_offered hlive).slots, syncAddress_filters]
  rfl

theorem poll_pageApart (hlive : c.phase ≠ .disposed) : PageApart c c.poll := by
  have hcontinues := poll_continues c
  refine ⟨hcontinues.wiring, hcontinues.specs, fun spec v _ hmem => ?_⟩
  rwa [poll_slots hlive]

theorem poll_currentPage (hlive : c.phase ≠ .disposed) : c.poll.currentPage = c.currentPage := by
  rw [currentPage, currentPage, Filters.page_eq, Filters.page_eq, (poll_continues c).wiring,
    Filters.value?_eq_of_standings (Filters.standings_eq_of_slots (poll_slots hlive))]

theorem Sound.paged_pageApart (h : c.Sound) (hlive : c.phase ≠ .disposed) (turn : PageTurn) :
    PageApart c (c.paged turn) := by
  refine ⟨rfl, (paged_continues c turn).specs, fun spec v hother hmem => ?_⟩
  obtain ⟨field, hfield, rfl, rfl⟩ := Filters.mem_slots.1 hmem
  have hafter : field.after
      [(c.wiring.pageField, some (toString (turn.target c.currentPage)))] ∈
        (c.paged turn).filters.fields := by
    rw [paged_fields (h.isOpen hlive) h.page_known]
    exact List.mem_map_of_mem hfield
  refine Filters.mem_slots.2 ⟨_, hafter, rfl, ?_⟩
  rw [FieldState.after, FieldState.valueAfter_singleton, hother, if_neg Bool.false_ne_true]

/-! ## A wait -/

/-- With the page shown or ready, one tick is enough. -/
theorem Served.showsPage_poll (h : Served services reply c)
    (hpage : ShowsPage reply c ∨ ∃ number, InFlight c number (.answered (.ok (reply c.query)))) :
    ShowsPage reply c.poll := by
  have halike := (syncAddress_alike c).trans (collectChoices_alike _)
  rw [h.poll_eq]
  rcases hpage with hshows | ⟨number, hflight⟩
  · exact (hshows.alike halike).collectResults
  · rw [← halike.query] at hflight
    exact (hflight.alike halike).showsPage

/-- With its request open, a tick finds nothing, and a second one changes nothing. -/
theorem Served.awaits_poll (h : Served services reply c) {number : Nat}
    (hflight : InFlight c number .opened) :
    InFlight c.poll number .opened ∧
      (waiting fun q => .ok (reply q)).Awaits c.poll number := by
  have hopen := hflight.alike ((syncAddress_alike c).trans (collectChoices_alike _))
  have hpolled : InFlight c.poll number .opened := by
    rw [h.poll_eq, hopen.collectResults]
    exact hopen
  exact ⟨hpolled, hpolled.awaited _, poll_poll c⟩

/-- An answer from the backend changes nothing but the desk. -/
theorem Served.complete (h : Served services reply c) (number : Nat) (answer : PageAnswer ι) :
    Served services reply (c.step (.complete number answer)) := by
  refine ⟨h.sound.step _, h.heeded, h.live, ?_, h.engaged, h.canSearch, h.refreshes⟩
  show (c.searches.complete number answer).2.source = _
  rw [Desk.complete_eq_touch]
  exact h.source

/-- If the answers come in time, a wait ends with the page shown, and but for that as one
tick ends. -/
theorem Served.await (h : Served services reply c) (hpage : HasPage services reply c)
    (hserved : ∀ number, (services number).InTime) :
    ∃ d, (waiting fun q => .ok (reply q)).await services c = .ok d ∧
      Served services reply d ∧ ShowsPage reply d ∧ PageApart c d ∧
      d.currentPage = c.currentPage := by
  by_cases hready : ShowsPage reply c ∨ ∃ number, InFlight c number (.answered (.ok (reply c.query)))
  · have hshows := h.showsPage_poll hready
    exact ⟨_, Waiting.lookOn_of_idle (hshows.awaited _) 0, h.poll, hshows,
      poll_pageApart h.live, poll_currentPage h.live⟩
  · -- Neither shown nor answered, so the first tick finds the request open.
    rcases hpage with hshows | ⟨number, hflight⟩
    · exact absurd (.inl hshows) hready
    · have hopen : (services number).openLooks ≠ 0 := by
        intro hprompt
        rw [(hserved number).treatment_of_prompt hprompt] at hflight
        exact hready (.inr ⟨number, hflight⟩)
      rw [Service.treatment_of_open hopen] at hflight
      obtain ⟨hheld, hawaits⟩ := h.awaits_poll hflight
      obtain ⟨hserve, hanswered⟩ := hheld.serve (hserved number)
      have hlater := h.poll.complete number (.ok (reply c.poll.query))
      have hshows := hlater.showsPage_poll (.inr ⟨number, hanswered⟩)
      have hbetween : PageApart c.poll (c.poll.step (.complete number (.ok (reply c.poll.query)))) :=
        ⟨rfl, rfl, fun _ _ _ hmem => hmem⟩
      exact ⟨_, Waiting.await_of_inTime rfl hawaits (hserved number) hopen hserve
          (hshows.awaited _), hlater.poll, hshows,
        ((poll_pageApart h.live).trans hbetween).trans (poll_pageApart hlater.live),
        (poll_currentPage hlater.live).trans (poll_currentPage h.live)⟩

/-- If the time is up before the answer comes, a wait ends without it. -/
theorem Served.await_of_late (h : Served services reply c) {number look : Nat}
    (hflight : InFlight c number ((services number).treatment (.ok (reply c.query))).opening)
    (hopen : look < (services number).openLooks)
    (hlate : requestTimeout ≤ (services number).waited look) :
    (waiting fun q => .ok (reply q)).await services c = .error c.poll := by
  rw [Service.treatment_of_open (Nat.ne_zero_of_lt hopen)] at hflight
  exact Waiting.await_of_late rfl (h.awaits_poll hflight).2 hopen hlate

/-! ## Page turns -/

/-- A page turn is taken, and leads to its page. -/
theorem Served.turnPage (h : Served services reply c) (hshows : ShowsPage reply c)
    (turn : PageTurn) :
    ∃ page, (c.turnPage turn).1 = .ok page ∧ Served services reply (c.turnPage turn).2 ∧
      HasPage services reply (c.turnPage turn).2 ∧ PageApart c (c.turnPage turn).2 ∧
      (c.turnPage turn).2.currentPage = turn.target c.currentPage := by
  rcases h.sound.turnPage_cases turn with ⟨hdisposed, _⟩ | ⟨_, hend, heq⟩ |
    ⟨_, _, ⟨_, hblank, _⟩ | ⟨_, _, heq⟩ | ⟨hidle, _⟩⟩
  · exact absurd hdisposed h.live
  · rw [heq]
    exact ⟨_, rfl, h, .inl hshows, .refl c, hend.symm⟩
  · rw [h.canSearch] at hblank
    cases hblank
  · have happart := h.sound.paged_pageApart h.live turn
    have hpaged : Served services reply (c.paged turn) := by
      refine ⟨h.sound.continue (paged_continues c turn), ?_, h.live, h.source, h.engaged,
        canSearch_paged h.sound h.live h.heeded turn h.canSearch, h.refreshes⟩
      rw [happart.wiring, happart.specs]
      exact h.heeded
    have hbeside := beginSearch_beside (c.paged turn)
    obtain ⟨hserved, hflight⟩ := hpaged.beginSearch
    rw [heq]
    refine ⟨_, congrArg (Except.map _) (beginSearch_fst.2 hpaged.canSearch), hserved,
      .inr ⟨_, hflight⟩, happart.trans hbeside.offered.pageApart, ?_⟩
    rw [currentPage, hbeside.filters, hbeside.wiring, ← currentPage]
    exact h.sound.currentPage_paged h.live turn
  · rw [h.engaged] at hidle
    cases hidle

/-! ## The beginning -/

variable {wiring : Wiring} {specs : List FieldSpec} {filters : Filters}
  {preloads : Desk Query (PageAnswer Choice)} {bar : AddressBar}

/-- On an address that carries a query its first search is in flight from the beginning. -/
theorem served_started (hfilters : Filters.ofSpecs specs = .ok filters)
    (hwired : ∀ name ∈ wiring.wiredFields, filters.contains name = true)
    (hheeded : ∀ name ∈ wiring.neededFields, Heeded wiring specs name)
    (hcarries : CarriesQuery wiring specs bar.current) :
    let c := started wiring filters (.ofSource (served services reply)) preloads bar
    Served services reply c ∧
      InFlight c 0 ((services 0).treatment (.ok (reply c.query))).opening := by
  have hcan := (canSearch_arrived hfilters wiring (.ofSource (served services reply)) preloads
    bar).2 hcarries
  have hspecs := arrived_specs hfilters wiring (.ofSource (served services reply)) preloads bar
  have harrived : Served services reply
      (arrived wiring filters (.ofSource (served services reply)) preloads bar) := by
    refine ⟨sound_arrived hfilters hwired _ preloads bar, ?_, Phase.noConfusion, rfl,
      showsFilter_of_canSearch (hspecs.symm ▸ hheeded) hcan, hcan, rfl⟩
    rw [hspecs]
    exact hheeded
  rw [started, if_pos hcan]
  exact harrived.beginSearch

end RecordSearch.Controller
