import RecordSearch.Controller.Run
import RecordSearch.Proofs.Feed
import RecordSearch.Proofs.Filters.Address
import RecordSearch.Proofs.Form

/-!
# What each operation comes to

The operations of a controller are put together from a few moves: values are
assigned, an address is read, a search is begun, turned down or dropped, an
answer is shown. Below, every operation is taken apart into these once, and
what follows is proved from the cases found here and not from the definitions.

Most moves belong to one of two sides. On one side are the values: filters,
controls, address bar and the parameters known to be shown. On the other is
the search with all that is shown of it. `Beside c d` says that `d` came from
`c` by moves on the side of the search alone; it carries whatever is proved
about the values past them.
-/

namespace RecordSearch.Controller

variable {ι : Type}

/-- The second controller has the wiring, the filters, the controls and the
address bar of the first, and knows the same parameters. -/
structure Beside (c d : Controller ι) : Prop where
  wiring : d.wiring = c.wiring
  filters : d.filters = c.filters
  controls : d.form.controls = c.form.controls
  addressBar : d.addressBar = c.addressBar
  knownParameters : d.knownParameters = c.knownParameters

theorem Beside.refl (c : Controller ι) : Beside c c := ⟨rfl, rfl, rfl, rfl, rfl⟩

theorem Beside.trans {c d e : Controller ι} (h : Beside c d) (h' : Beside d e) :
    Beside c e :=
  ⟨h'.wiring.trans h.wiring, h'.filters.trans h.filters, h'.controls.trans h.controls,
    h'.addressBar.trans h.addressBar, h'.knownParameters.trans h.knownParameters⟩

/-! ## Searching -/

theorem turnDown_beside (c : Controller ι) : Beside c c.turnDown.2 :=
  ⟨rfl, rfl, rfl, rfl, rfl⟩

/-- Dropping a search touches its request and the flight, nothing else. -/
theorem dropSearch_eq (c : Controller ι) :
    c.dropSearch = { c with searches := c.dropSearch.searches, flight := none } := by
  rw [dropSearch]
  split
  · rfl
  · next hnone =>
      cases c
      cases hnone
      rfl

theorem dropSearch_beside (c : Controller ι) : Beside c c.dropSearch := by
  rw [dropSearch_eq]
  exact ⟨rfl, rfl, rfl, rfl, rfl⟩

theorem beginSearch_of_canSearch {c : Controller ι} (h : c.canSearch = true) :
    c.beginSearch = (.ok (), { c with
      turnedDown := false
      searches := c.dropSearch.searches.file c.query
      flight := some ⟨c.dropSearch.searches.size, c.query⟩
      results := none
      lastError := none
      phase := .searching }) := by
  rw [beginSearch, if_pos h, dropSearch_eq]
  rfl

theorem beginSearch_of_not_canSearch {c : Controller ι} (h : c.canSearch = false) :
    c.beginSearch = (.error (.blankQuery c.wiring.neededFields), c.turnDown.2) := by
  rw [beginSearch, h]
  rfl

theorem beginSearch_beside (c : Controller ι) : Beside c c.beginSearch.2 := by
  cases h : c.canSearch with
  | true =>
      rw [beginSearch_of_canSearch h]
      exact ⟨rfl, rfl, rfl, rfl, rfl⟩
  | false =>
      rw [beginSearch_of_not_canSearch h]
      exact turnDown_beside c

theorem query_eq_of_standings {c d : Controller ι} (hwiring : d.wiring = c.wiring)
    (h : d.filters.standings = c.filters.standings) : d.query = c.query := by
  rw [query, query, hwiring, Filters.values_eq_of_standings h]

theorem canSearch_eq_of_standings {c d : Controller ι} (hwiring : d.wiring = c.wiring)
    (h : d.filters.standings = c.filters.standings) : d.canSearch = c.canSearch := by
  have hmoved : d.filters.isMoved = c.filters.isMoved :=
    funext (Filters.isMoved_eq_of_standings h)
  rw [canSearch, canSearch, hwiring, hmoved]

/-! ## What the person does -/

theorem whenLive_of_live {β : Type} {c : Controller ι} (hlive : c.phase ≠ .disposed)
    (operation : Controller ι → Except SearchError β × Controller ι) :
    c.whenLive operation = operation c := by
  rw [whenLive, if_neg hlive]

theorem whenLive_of_disposed {β : Type} {c : Controller ι} (h : c.phase = .disposed)
    (operation : Controller ι → Except SearchError β × Controller ι) :
    c.whenLive operation = (.error .disposed, c) := by
  rw [whenLive, if_pos h]

/-- The assignments that a submission makes: the form, then the first page. -/
def submission (c : Controller ι) : Assignments :=
  c.form.assignments c.filters ++ [Filters.pageReset c.wiring.pageField]

/-- Whether a control that a search needs is filled. -/
def isFilled (c : Controller ι) : Bool :=
  c.wiring.neededFields.any c.form.holds

/-- A controller that has copied its form into its filters, about to search. -/
def submitted (c : Controller ι) : Controller ι :=
  { c with
    filters := (c.filters.assign c.submission .user).2
    form := c.form.untouch
    engaged := true }

theorem submission_known {c : Controller ι}
    (hpage : c.filters.contains c.wiring.pageField = true) :
    ∀ change ∈ c.submission, c.filters.contains change.1 = true := by
  intro change hchange
  rcases List.mem_append.1 hchange with hform | hreset
  · exact c.form.assignments_known c.filters change hform
  · obtain rfl := List.mem_singleton.1 hreset
    exact hpage

theorem submit_of_blank {c : Controller ι} (hlive : c.phase ≠ .disposed)
    (h : c.isFilled = false) :
    c.submit = (.error (.blankQuery c.wiring.neededFields), c.turnDown.2) := by
  rw [isFilled] at h
  rw [submit, whenLive_of_live hlive]
  dsimp only
  rw [h, if_neg Bool.false_ne_true]
  rfl

theorem submit_of_filled {c : Controller ι} (hlive : c.phase ≠ .disposed)
    (hopen : c.filters.isClosed = false)
    (hpage : c.filters.contains c.wiring.pageField = true) (h : c.isFilled = true) :
    c.submit = c.submitted.beginSearch := by
  have hok := Filters.assign_fst hopen (submission_known hpage) .user
  rw [isFilled] at h
  rw [submit, whenLive_of_live hlive]
  dsimp only
  rw [if_pos h, ← submission]
  split
  · next e fs heq =>
      rw [heq] at hok
      cases hok
  · next fs heq =>
      rw [submitted, heq]

/-- A controller that has assigned the page that a turn leads to. -/
def paged (c : Controller ι) (turn : PageTurn) : Controller ι :=
  { c with
    filters := (c.filters.assign
      [(c.wiring.pageField, some (toString (turn.target c.currentPage)))] .pageTurn).2 }

theorem paged_known {c : Controller ι} (hpage : c.filters.contains c.wiring.pageField = true)
    (turn : PageTurn) :
    ∀ change ∈ [(c.wiring.pageField, some (toString (turn.target c.currentPage)))],
      c.filters.contains change.1 = true := by
  intro change hchange
  obtain rfl := List.mem_singleton.1 hchange
  exact hpage

theorem turnPage_at_end {c : Controller ι} (hlive : c.phase ≠ .disposed) {turn : PageTurn}
    (h : turn.target c.currentPage = c.currentPage) :
    c.turnPage turn = (.ok c.currentPage, c) := by
  rw [turnPage, whenLive_of_live hlive]
  dsimp only
  rw [if_pos h]

theorem turnPage_of_blank {c : Controller ι} (hlive : c.phase ≠ .disposed) {turn : PageTurn}
    (hmove : turn.target c.currentPage ≠ c.currentPage)
    (hengaged : c.engaged = true) (h : c.canSearch = false) :
    c.turnPage turn = (.error (.blankQuery c.wiring.neededFields), c.turnDown.2) := by
  rw [turnPage, whenLive_of_live hlive]
  dsimp only
  rw [if_neg hmove, hengaged, h]
  rfl

theorem turnPage_of_moves {c : Controller ι} (hlive : c.phase ≠ .disposed)
    (hopen : c.filters.isClosed = false)
    (hpage : c.filters.contains c.wiring.pageField = true) {turn : PageTurn}
    (hmove : turn.target c.currentPage ≠ c.currentPage)
    (h : c.engaged = true → c.canSearch = true) :
    c.turnPage turn =
      if c.engaged then
        match (c.paged turn).beginSearch with
        | (.ok _, d) => (.ok (turn.target c.currentPage), d)
        | (.error e, d) => (.error e, d)
      else (.ok (turn.target c.currentPage), c.paged turn) := by
  have hok := Filters.assign_fst hopen (paged_known hpage turn) .pageTurn
  have hgate : (c.engaged && !c.canSearch) = false := by
    cases hengaged : c.engaged with
    | false => rfl
    | true => rw [h hengaged]; rfl
  have hturn : c.filters.turnPage c.wiring.pageField turn =
      (.ok (turn.target c.currentPage), (c.paged turn).filters) := by
    rw [Filters.turnPage, ← currentPage]
    split
    · next fs heq => rw [paged, heq]
    · next e fs heq =>
        rw [heq] at hok
        cases hok
  rw [turnPage, whenLive_of_live hlive]
  dsimp only
  rw [if_neg hmove, hgate, if_neg Bool.false_ne_true, hturn]
  rfl

theorem turnPage_of_idle {c : Controller ι} (hlive : c.phase ≠ .disposed)
    (hopen : c.filters.isClosed = false)
    (hpage : c.filters.contains c.wiring.pageField = true) {turn : PageTurn}
    (hmove : turn.target c.currentPage ≠ c.currentPage) (hidle : c.engaged = false) :
    c.turnPage turn = (.ok (turn.target c.currentPage), c.paged turn) := by
  have hgate : c.engaged = true → c.canSearch = true := by simp [hidle]
  rw [turnPage_of_moves hlive hopen hpage hmove hgate, hidle]
  rfl

theorem turnPage_of_engaged {c : Controller ι} (hlive : c.phase ≠ .disposed)
    (hopen : c.filters.isClosed = false)
    (hpage : c.filters.contains c.wiring.pageField = true) {turn : PageTurn}
    (hmove : turn.target c.currentPage ≠ c.currentPage) (hengaged : c.engaged = true)
    (hcan : c.canSearch = true) :
    c.turnPage turn = ((c.paged turn).beginSearch.1.map fun _ => turn.target c.currentPage,
      (c.paged turn).beginSearch.2) := by
  rw [turnPage_of_moves hlive hopen hpage hmove fun _ => hcan, hengaged, if_pos rfl]
  cases (c.paged turn).beginSearch with
  | mk outcome d =>
      cases outcome with
      | ok _ => rfl
      | error e => rfl

/-- A controller that has read its bar into filters and form. -/
def read (c : Controller ι) : Controller ι :=
  let filters := (c.filters.readParameters c.addressBar.current .address).2
  { c with
    filters := filters
    knownParameters := filters.parameters
    form := c.form.refill filters }

theorem followAddress_of_same {c : Controller ι} (hlive : c.phase ≠ .disposed)
    (hopen : c.filters.isClosed = false)
    (h : c.filters.reading c.addressBar.current = c.filters.effectives) :
    c.followAddress =
      (.ok false, { c with
        filters := (c.filters.readParameters c.addressBar.current .address).2 }) := by
  have hok := Filters.readParameters_fst hopen c.addressBar.current .address
  rw [followAddress, whenLive_of_live hlive]
  dsimp only
  split
  · next e fs heq =>
      rw [heq] at hok
      cases hok
  · next fs heq => rw [heq]
  · next fs heq =>
      rw [heq] at hok
      simp [h] at hok

theorem followAddress_of_differs {c : Controller ι} (hlive : c.phase ≠ .disposed)
    (hopen : c.filters.isClosed = false)
    (h : c.filters.reading c.addressBar.current ≠ c.filters.effectives) :
    c.followAddress =
      (.ok true,
        if c.read.canSearch then ({ c.read with engaged := true } : Controller ι).beginSearch.2
        else { c.read.dropSearch with results := none, lastError := none, phase := .ready }) := by
  have hok := Filters.readParameters_fst hopen c.addressBar.current .address
  rw [followAddress, whenLive_of_live hlive]
  dsimp only
  split
  · next e fs heq =>
      rw [heq] at hok
      cases hok
  · next fs heq =>
      rw [heq] at hok
      simp [h] at hok
  · next fs heq =>
      obtain rfl : fs = (c.filters.readParameters c.addressBar.current .address).2 := by
        rw [heq]
      show (if c.read.canSearch then
          match ({ c.read with engaged := true } : Controller ι).beginSearch with
          | (.ok _, d) => ((.ok true : Except SearchError Bool), d)
          | (.error e, d) => (.error e, d)
        else (.ok true, { c.read.dropSearch with
          results := none, lastError := none, phase := .ready })) = _
      cases hcan : c.read.canSearch with
      | true =>
          have hcan' : ({ c.read with engaged := true } : Controller ι).canSearch = true := hcan
          rw [if_pos rfl, if_pos rfl, beginSearch_of_canSearch hcan']
      | false => rfl

/-- Following an address that changes values stays beside having read it. -/
theorem followAddress_beside_read {c : Controller ι} (hlive : c.phase ≠ .disposed)
    (hopen : c.filters.isClosed = false)
    (h : c.filters.reading c.addressBar.current ≠ c.filters.effectives) :
    Beside c.read c.followAddress.2 := by
  rw [followAddress_of_differs hlive hopen h]
  dsimp only
  split
  · exact Beside.trans (d := { c.read with engaged := true }) ⟨rfl, rfl, rfl, rfl, rfl⟩
      (beginSearch_beside _)
  · exact (dropSearch_beside c.read).trans ⟨rfl, rfl, rfl, rfl, rfl⟩

/-! ## What others ask for -/

theorem takeHandle_eq (c : Controller ι) :
    c.takeHandle.2 = { c with handles := c.takeHandle.2.handles } := by
  rw [takeHandle, whenLive]
  split
  · rfl
  · rfl

theorem takeHandle_beside (c : Controller ι) : Beside c c.takeHandle.2 := by
  rw [takeHandle_eq]
  exact ⟨rfl, rfl, rfl, rfl, rfl⟩

theorem refresh_eq (c : Controller ι) (handle : Nat) :
    (c.refresh handle).2 = { c with refreshes := (c.refresh handle).2.refreshes } := by
  rw [refresh]
  split
  · split
    · rfl
    · rfl
  · rfl

theorem refresh_beside (c : Controller ι) (handle : Nat) : Beside c (c.refresh handle).2 := by
  rw [refresh_eq]
  exact ⟨rfl, rfl, rfl, rfl, rfl⟩

/-! ## A tick -/

/-- What waits for the controller in its filters. -/
def pendingChanges (c : Controller ι) : List ValueChange :=
  c.filters.valueFeed.waiting ownSubscription

/-- The filters once the controller has taken what waits for it. -/
def drained (c : Controller ι) : Filters :=
  { c.filters with valueFeed := (c.filters.valueFeed.drain ownSubscription).2 }

/-- Whether some waiting change came from elsewhere than an address. -/
def isDirty (c : Controller ι) : Bool :=
  c.pendingChanges.any (·.source ≠ .address)

theorem waiting_publish {α : Type} {feed : Feed α} {queue : List α}
    (h : feed.queues = [some queue]) (item : α) :
    (feed.publish item).waiting ownSubscription = feed.waiting ownSubscription ++ [item] := by
  have hsub : feed.Subscribed ownSubscription := ⟨queue, by rw [h]; rfl⟩
  exact hsub.waiting_publish item

/-- An assignment leaves something to be written if it changes a value in effect,
unless it came from an address. -/
theorem isDirty_of_assign {c d : Controller ι} {changes : Assignments} {source : Provenance}
    (hsubscribed : ∃ queue, c.filters.valueFeed.queues = [some queue])
    (hfilters : d.filters = (c.filters.assign changes source).2) :
    d.isDirty = true ↔
      source ≠ .address ∧ d.filters.effectives ≠ c.filters.effectives ∨ c.isDirty = true := by
  obtain ⟨queue, hqueue⟩ := hsubscribed
  have hfeed := Filters.assign_valueFeed c.filters changes source
  -- Rejected, accepted without a change, accepted with one: only the last is announced.
  rcases Filters.assign_cases c.filters changes source with ⟨e, heq⟩ | ⟨hsame, heq⟩ | ⟨hne, heq⟩
  · rw [heq] at hfilters
    simp [isDirty, pendingChanges, hfilters]
  · rw [heq] at hfeed hfilters
    dsimp only at hfeed hfilters
    have hquiet : d.filters.valueFeed = c.filters.valueFeed := hfilters ▸ hfeed
    have hsame' : d.filters.effectives = c.filters.effectives := hfilters ▸ hsame
    simp [isDirty, pendingChanges, hsame', hquiet]
  · rw [heq] at hfeed hfilters
    dsimp only at hfeed hfilters
    have hdiffers : d.filters.effectives ≠ c.filters.effectives := by
      rw [hfilters]
      exact hne
    have hannounced : d.filters.valueFeed =
        c.filters.valueFeed.publish ⟨d.filters.values, source⟩ := hfilters ▸ hfeed
    rw [isDirty, isDirty, pendingChanges, pendingChanges, hannounced,
      waiting_publish hqueue, List.any_append, Bool.or_eq_true]
    simp [hdiffers, or_comm]

theorem syncAddress_eq (c : Controller ι) :
    c.syncAddress =
      if c.isDirty ∧ c.filters.parameters ≠ c.knownParameters then
        { c with
          filters := c.drained
          addressBar := c.addressBar.update c.filters.addressPatch
          knownParameters := c.filters.parameters }
      else { c with filters := c.drained } := by
  have hsync : c.syncAddress =
      if c.isDirty then
        if c.filters.parameters = c.knownParameters then { c with filters := c.drained }
        else { c with
          filters := c.drained
          addressBar := c.addressBar.update c.filters.addressPatch
          knownParameters := c.filters.parameters }
      else { c with filters := c.drained } := rfl
  rw [hsync]
  by_cases hdirty : c.isDirty = true
  · by_cases hsame : c.filters.parameters = c.knownParameters
    · rw [if_pos hdirty, if_pos hsame, if_neg fun h => h.2 hsame]
    · rw [if_pos hdirty, if_neg hsame, if_pos ⟨hdirty, hsame⟩]
  · rw [if_neg hdirty, if_neg fun h => hdirty h.1]

theorem syncAddress_filters (c : Controller ι) : c.syncAddress.filters = c.drained := by
  rw [syncAddress_eq]
  split
  · rfl
  · rfl

/-- Neither the form nor the searches have a part in what is written. -/
theorem syncAddress_apart (c : Controller ι) (form : Form)
    (searches : Desk Query (PageAnswer ι)) :
    ({ c with form, searches } : Controller ι).syncAddress =
      { c.syncAddress with form, searches } := by
  rw [syncAddress_eq, syncAddress_eq]
  by_cases hwrites : c.isDirty = true ∧ c.filters.parameters ≠ c.knownParameters
  · rw [if_pos hwrites]
    exact if_pos hwrites
  · rw [if_neg hwrites]
    exact if_neg hwrites

/-- There are refreshes to be served by a tick. -/
def Serves (c : Controller ι) : Prop :=
  c.refreshes ≠ 0 ∧ c.engaged = true

instance (c : Controller ι) : Decidable c.Serves :=
  inferInstanceAs (Decidable (_ ∧ _))

theorem serveRefreshes_eq (c : Controller ι) : c.serveRefreshes =
    if c.Serves then ({ c with refreshes := 0 } : Controller ι).beginSearch.2
    else { c with refreshes := 0 } := by
  rw [serveRefreshes]
  dsimp only
  by_cases hserves : c.Serves
  · rw [if_pos hserves, if_neg]
    simpa [Serves] using hserves
  · rw [if_neg hserves, if_pos]
    simpa [Serves, or_iff_not_imp_left] using hserves

theorem serveRefreshes_beside (c : Controller ι) : Beside c c.serveRefreshes := by
  rw [serveRefreshes_eq]
  split
  · exact Beside.trans (d := { c with refreshes := 0 }) ⟨rfl, rfl, rfl, rfl, rfl⟩
      (beginSearch_beside _)
  · exact ⟨rfl, rfl, rfl, rfl, rfl⟩

/-- The second controller is the first with other choices: the side of the
values is as it was, but for what the backend offers for each field. -/
structure Offered (c d : Controller ι) : Prop where
  wiring : d.wiring = c.wiring
  slots : d.filters.slots = c.filters.slots
  valueFeed : d.filters.valueFeed = c.filters.valueFeed
  controls : d.form.controls = c.form.controls
  addressBar : d.addressBar = c.addressBar
  knownParameters : d.knownParameters = c.knownParameters

theorem Beside.offered {c d : Controller ι} (h : Beside c d) : Offered c d :=
  ⟨h.wiring, by rw [h.filters], by rw [h.filters], h.controls, h.addressBar,
    h.knownParameters⟩

theorem Offered.trans {c d e : Controller ι} (h : Offered c d) (h' : Offered d e) :
    Offered c e :=
  ⟨h'.wiring.trans h.wiring, h'.slots.trans h.slots, h'.valueFeed.trans h.valueFeed,
    h'.controls.trans h.controls, h'.addressBar.trans h.addressBar,
    h'.knownParameters.trans h.knownParameters⟩

theorem Offered.specs {c d : Controller ι} (h : Offered c d) :
    d.filters.specs = c.filters.specs := by
  rw [Filters.specs_eq_map_slots, h.slots, ← Filters.specs_eq_map_slots]

theorem Offered.standings {c d : Controller ι} (h : Offered c d) :
    d.filters.standings = c.filters.standings :=
  Filters.standings_eq_of_slots h.slots

theorem Offered.effectives {c d : Controller ι} (h : Offered c d) :
    d.filters.effectives = c.filters.effectives :=
  Filters.effectives_eq_of_standings h.standings

theorem Offered.query {c d : Controller ι} (h : Offered c d) : d.query = c.query :=
  query_eq_of_standings h.wiring h.standings

theorem Offered.canSearch {c d : Controller ι} (h : Offered c d) :
    d.canSearch = c.canSearch :=
  canSearch_eq_of_standings h.wiring h.standings

theorem Offered.isDirty {c d : Controller ι} (h : Offered c d) : d.isDirty = c.isDirty := by
  simp only [Controller.isDirty, pendingChanges, h.valueFeed]

theorem Beside.isDirty {c d : Controller ι} (h : Beside c d) : d.isDirty = c.isDirty :=
  h.offered.isDirty

theorem dropPreload_eq (c : Controller ι) :
    c.dropPreload = { c with preloads := c.dropPreload.preloads, preloadFlight := none } := by
  rw [dropPreload]
  split
  · rfl
  · next hnone =>
      cases c
      cases hnone
      rfl

theorem dropPreload_beside (c : Controller ι) : Beside c c.dropPreload := by
  rw [dropPreload_eq]
  exact ⟨rfl, rfl, rfl, rfl, rfl⟩

theorem setChoices_offered (c : Controller ι) (key : String) (choices : List Choice) :
    Offered c { c with filters := (c.filters.setChoices key choices).2 } := by
  have hset := Filters.setChoices_keeps c.filters key choices
  exact ⟨rfl, hset.1, hset.2, rfl, rfl, rfl⟩

theorem collectChoices_offered (c : Controller ι) : Offered c c.collectChoices := by
  rw [collectChoices]
  split
  · exact (Beside.refl c).offered
  · next number _ =>
      have hpoll : Beside c { c with preloads := (c.preloads.poll number).2 } :=
        ⟨rfl, rfl, rfl, rfl, rfl⟩
      dsimp only
      split
      · exact hpoll.offered
      · exact (hpoll.trans (dropPreload_beside _)).offered.trans (setChoices_offered _ _ _)
      · exact (hpoll.trans (dropPreload_beside _)).offered
      · exact (hpoll.trans (dropPreload_beside _)).offered

/-- Picking up choices touches the preload and the choices, nothing else. -/
theorem collectChoices_eq (c : Controller ι) :
    c.collectChoices = { c with
      filters := c.collectChoices.filters
      preloads := c.collectChoices.preloads
      preloadFlight := c.collectChoices.preloadFlight } := by
  rw [collectChoices]
  split
  · rfl
  · dsimp only
    split
    · rfl
    · rw [dropPreload_eq]
    · rw [dropPreload_eq]
    · rw [dropPreload_eq]

theorem offerFacets_offered (c : Controller ι) (facets : Facets) :
    Offered c (c.offerFacets facets) := by
  have hset := Filters.setChoices_foldl_keeps facets.toChoices.toList c.filters
  exact ⟨rfl, hset.1, hset.2, rfl, rfl, rfl⟩

theorem showFailure_beside (c : Controller ι) (error : SearchError) :
    Beside c (c.showFailure error) :=
  (dropSearch_beside c).trans ⟨rfl, rfl, rfl, rfl, rfl⟩

theorem showPage_offered (c : Controller ι) (page : ResultPage ι) :
    Offered c (c.showPage page) := by
  have hfacets := offerFacets_offered c.dropSearch page.facets
  exact (dropSearch_beside c).offered.trans
    ⟨hfacets.wiring, hfacets.slots, hfacets.valueFeed, hfacets.controls,
      hfacets.addressBar, hfacets.knownParameters⟩

theorem collectResults_offered (c : Controller ι) : Offered c c.collectResults := by
  rw [collectResults]
  split
  · exact (Beside.refl c).offered
  · next flight _ =>
      have hpoll : Beside c { c with searches := (c.searches.poll flight.number).2 } :=
        ⟨rfl, rfl, rfl, rfl, rfl⟩
      dsimp only
      split
      · exact hpoll.offered
      · exact hpoll.offered.trans (showPage_offered _ _)
      · exact (hpoll.trans (showFailure_beside _ _)).offered
      · exact (hpoll.trans (showFailure_beside _ _)).offered

/-- After it has brought bar and values together, a tick leaves both alone. -/
theorem poll_offered {c : Controller ι} (hlive : c.phase ≠ .disposed) :
    Offered c.syncAddress c.poll := by
  rw [poll, if_neg hlive]
  exact (serveRefreshes_beside _).offered.trans
    ((collectChoices_offered _).trans (collectResults_offered _))

theorem poll_isClosed {c : Controller ι} (hlive : c.phase ≠ .disposed) :
    c.poll.filters.isClosed = c.filters.isClosed := by
  rw [Filters.isClosed, (poll_offered hlive).valueFeed, syncAddress_filters]
  rfl

theorem poll_of_disposed {c : Controller ι} (h : c.phase = .disposed) : c.poll = c := by
  rw [poll, if_pos h]

/-- Disposing of a controller leaves what it shows and knows. -/
theorem dispose_eq (c : Controller ι) :
    c.dispose = { c with
      filters := c.dispose.filters
      refreshes := c.dispose.refreshes
      searches := c.dispose.searches
      preloads := c.dispose.preloads
      flight := c.dispose.flight
      preloadFlight := c.dispose.preloadFlight
      phase := .disposed } := by
  rw [dispose]
  split
  · next hdisposed =>
      cases c
      cases hdisposed
      rfl
  · rw [dropPreload_eq, dropSearch_eq]

/-! ## Actions as operations -/

@[simp] theorem step_submit (c : Controller ι) : c.step .submit = c.submit.2 := rfl

@[simp] theorem step_turnPage (c : Controller ι) (turn : PageTurn) :
    c.step (.turnPage turn) = (c.turnPage turn).2 := rfl

@[simp] theorem step_followAddress (c : Controller ι) :
    c.step .followAddress = c.followAddress.2 := rfl

@[simp] theorem step_poll (c : Controller ι) : c.step .poll = c.poll := rfl

@[simp] theorem step_takeHandle (c : Controller ι) : c.step .takeHandle = c.takeHandle.2 := rfl

@[simp] theorem step_refresh (c : Controller ι) (handle : Nat) :
    c.step (.refresh handle) = (c.refresh handle).2 := rfl

@[simp] theorem step_dispose (c : Controller ι) : c.step .dispose = c.dispose := rfl

/-- Whether an action leaves values, searches and phase of the controller alone:
all but its main operations do. -/
def Action.passesBy : Action ι → Bool
  | .submit | .turnPage _ | .followAddress | .poll | .dispose => false
  | _ => true

theorem step_eq_of_passesBy (c : Controller ι) {action : Action ι}
    (h : action.passesBy = true) :
    c.step action = { c with
      form := (c.step action).form
      addressBar := (c.step action).addressBar
      searches := (c.step action).searches
      preloads := (c.step action).preloads
      handles := (c.step action).handles
      refreshes := (c.step action).refreshes } := by
  cases action with
  | submit | turnPage _ | followAddress | poll | dispose => cases h
  | takeHandle => rw [step_takeHandle, takeHandle_eq]
  | refresh handle => rw [step_refresh, refresh_eq]
  | edit _ | visit _ | navigate _ | complete _ _ | abandon _ | completePreload _
  | abandonPreload => rfl

end RecordSearch.Controller
