import RecordSearch.Proofs.Controller.Submission
import RecordSearch.Proofs.Request

/-!
# What is shown answers what is asked

Answers come when they come, in any order, and what they answer may long have
been replaced. Two facts keep the answers of old searches out. Only the answer
to the search in flight is awaited, and the search in flight is always the one
begun last: this is `Attentive`, and it holds as long as there is a controller,
disposed or not.

The other half is about the values. `Current` says that a search in flight asks
for what the filters say, and that a result or an error that is shown came from
such a search. Values do change without a search: while the controller is not
engaged, or when an address makes no query. Then nothing is shown. That a
submission or a page turn never changes values and then fails to search is where
the declarations come in; heeded controls are what it takes.
-/

namespace RecordSearch

/-- A request that came to an end without a page, as the controller reports it. -/
def Request.FailedWith {ι : Type} (r : Request (PageAnswer ι)) (error : SearchError) : Prop :=
  (∃ failure, r.answer = some (.error failure) ∧ error = .ofLoad failure) ∨
    (r.answer = none ∧ r.answerable = false ∧
      error = .queryFailure "loader dropped the request")

namespace Request

variable {ι : Type} {r : Request (PageAnswer ι)} {error : SearchError}

theorem FailedWith.answering (h : r.FailedWith error) (hawaited : r.awaited = false)
    {f : Request (PageAnswer ι) → Request (PageAnswer ι)} (hf : Answering f) :
    (f r).FailedWith error := by
  rcases h with ⟨failure, hanswer, herror⟩ | ⟨hanswer, hanswerable, herror⟩
  · exact .inl ⟨failure, (hf.answer r hawaited).trans hanswer, herror⟩
  · rw [hf.answerable r hanswerable]
    exact .inr ⟨hanswer, hanswerable, herror⟩

end Request

namespace Controller

variable {ι : Type} {c d : Controller ι}

/-- Only the answer to the search in flight, the one begun last, is awaited. -/
structure Attentive (c : Controller ι) : Prop where
  awaited : ∀ n subject r, c.searches.filed[n]? = some (subject, r) → r.awaited = true →
    ∃ flight, c.flight = some flight ∧ flight.number = n
  latest : ∀ flight, c.flight = some flight → flight.number + 1 = c.searches.size

/-- What is asked and what is shown belong to the values in effect. -/
structure Current (c : Controller ι) : Prop where
  flight : ∀ flight, c.flight = some flight →
    flight.query = c.query ∧ c.results = none ∧ c.lastError = none ∧
      ∃ r, c.searches.filed[flight.number]? = some (c.query, r) ∧
        r.awaited = true ∧ r.collected = false
  results : ∀ page, c.results = some page →
    ∃ n r, n + 1 = c.searches.size ∧ c.searches.filed[n]? = some (c.query, r) ∧
      r.answer = some (.ok page)
  lastError : ∀ error, c.lastError = some error →
    ∃ n r, n + 1 = c.searches.size ∧ c.searches.filed[n]? = some (c.query, r) ∧
      r.FailedWith error
  /-- Nothing is asked or shown before the controller is engaged. -/
  idle : c.engaged = false → c.flight = none ∧ c.results = none ∧ c.lastError = none

theorem current_of_idle (hflight : c.flight = none) (hresults : c.results = none)
    (herror : c.lastError = none) : c.Current := by
  refine ⟨fun flight h => ?_, fun page h => ?_, fun error h => ?_, fun _ => ?_⟩
  · rw [hflight] at h
    cases h
  · rw [hresults] at h
    cases h
  · rw [herror] at h
    cases h
  · exact ⟨hflight, hresults, herror⟩

/-! ## Moves beside the search -/

/-- The second controller asks and shows what the first does, for the same query. -/
structure Alike (c d : Controller ι) : Prop where
  query : d.query = c.query
  searches : d.searches = c.searches
  flight : d.flight = c.flight
  results : d.results = c.results
  lastError : d.lastError = c.lastError
  engaged : d.engaged = c.engaged

theorem Alike.trans {e : Controller ι} (h : Alike c d) (h' : Alike d e) : Alike c e :=
  ⟨h'.query.trans h.query, h'.searches.trans h.searches, h'.flight.trans h.flight,
    h'.results.trans h.results, h'.lastError.trans h.lastError, h'.engaged.trans h.engaged⟩

theorem Attentive.not_awaited (h : c.Attentive) {n : Nat} {subject : Query}
    {r : Request (PageAnswer ι)} (hentry : c.searches.filed[n]? = some (subject, r))
    (hother : ∀ flight, c.flight = some flight → flight.number ≠ n) : r.awaited = false := by
  by_contra hawaited
  obtain ⟨flight, hflight, hnumber⟩ :=
    h.awaited n subject r hentry (eq_true_of_ne_false hawaited)
  exact hother flight hflight hnumber

theorem Attentive.awaitsOnly (h : c.Attentive) :
    c.searches.AwaitsOnly (c.flight.map (·.number)) := by
  intro n subject r hentry hawaited
  obtain ⟨flight, hflight, hnumber⟩ := h.awaited n subject r hentry hawaited
  rw [hflight, Option.map_some, hnumber]

theorem Attentive.congr (h : c.Attentive) (hsearches : d.searches = c.searches)
    (hflight : d.flight = c.flight) : d.Attentive := by
  refine ⟨fun n subject r => ?_, fun flight => ?_⟩
  · rw [hsearches, hflight]
    exact h.awaited n subject r
  · rw [hsearches, hflight]
    exact h.latest flight

theorem Attentive.alike (h : c.Attentive) (hd : Alike c d) : d.Attentive :=
  h.congr hd.searches hd.flight

theorem Current.alike (h : c.Current) (hd : Alike c d) : d.Current := by
  obtain ⟨hquery, hsearches, hflight, hresults, herror, hengaged⟩ := hd
  refine ⟨?_, ?_, ?_, ?_⟩
  · rw [hquery, hsearches, hflight, hresults, herror]
    exact h.flight
  · rw [hquery, hsearches, hresults]
    exact h.results
  · rw [hquery, hsearches, herror]
    exact h.lastError
  · rw [hflight, hresults, herror, hengaged]
    exact h.idle

theorem turnDown_alike (c : Controller ι) : Alike c c.turnDown.2 :=
  ⟨rfl, rfl, rfl, rfl, rfl, rfl⟩

theorem syncAddress_alike (c : Controller ι) : Alike c c.syncAddress := by
  rw [syncAddress_eq]
  split
  · exact ⟨rfl, rfl, rfl, rfl, rfl, rfl⟩
  · exact ⟨rfl, rfl, rfl, rfl, rfl, rfl⟩

theorem collectChoices_alike (c : Controller ι) : Alike c c.collectChoices := by
  refine ⟨(collectChoices_offered c).query, ?_, ?_, ?_, ?_, ?_⟩
  all_goals rw [collectChoices_eq]

/-- Reading an address that changes no value. -/
theorem read_alike (hopen : c.filters.isClosed = false)
    (h : c.filters.reading c.addressBar.current = c.filters.effectives) :
    Alike c { c with
      filters := (c.filters.readParameters c.addressBar.current .address).2 } := by
  refine ⟨?_, rfl, rfl, rfl, rfl, rfl⟩
  refine query_eq_of_standings rfl (Filters.standings_eq_of_effectives ?_ ?_)
  · exact Filters.assign_specs _ _ _
  · exact (Filters.readParameters_effectives hopen _ _).trans h

/-! ## The beginning and the end of a search -/

theorem dropSearch_flight (c : Controller ι) : c.dropSearch.flight = none := by
  rw [dropSearch_eq]

theorem dropSearch_engaged (c : Controller ι) : c.dropSearch.engaged = c.engaged := by
  rw [dropSearch_eq]

theorem dropSearch_results (c : Controller ι) : c.dropSearch.results = c.results := by
  rw [dropSearch_eq]

/-- A search that is dropped is withdrawn. -/
theorem dropSearch_searches (c : Controller ι) :
    c.dropSearch.searches = match c.flight with
      | some flight => c.searches.touch flight.number Request.withdraw
      | none => c.searches := by
  rw [dropSearch]
  cases c.flight with
  | some flight => exact c.searches.withdraw_eq_touch flight.number
  | none => rfl

theorem dropSearch_size (c : Controller ι) : c.dropSearch.searches.size = c.searches.size := by
  rw [dropSearch_searches]
  split
  · exact Desk.touch_size _ _ _
  · rfl

/-- After it no answer is awaited. -/
theorem dropSearch_awaitsOnly (h : c.searches.AwaitsOnly (c.flight.map (·.number))) :
    c.dropSearch.searches.AwaitsOnly none := by
  rw [dropSearch]
  cases hflight : c.flight with
  | some flight =>
      rw [hflight] at h
      exact h.withdraw
  | none =>
      rw [hflight] at h
      exact h

theorem Attentive.dropSearch_awaited (h : c.Attentive) {n : Nat} {subject : Query}
    {r : Request (PageAnswer ι)}
    (hentry : c.dropSearch.searches.filed[n]? = some (subject, r)) : r.awaited = false := by
  by_contra hawaited
  cases dropSearch_awaitsOnly h.awaitsOnly n subject r hentry (eq_true_of_ne_false hawaited)

theorem Attentive.dropSearch (h : c.Attentive) : c.dropSearch.Attentive := by
  refine ⟨fun n subject r hentry hawaited => ?_, fun flight hflight => ?_⟩
  · rw [h.dropSearch_awaited hentry] at hawaited
    cases hawaited
  · rw [dropSearch_flight] at hflight
    cases hflight

/-- A search that is begun is in flight, and nothing is shown any more. -/
theorem Attentive.begin (h : c.Attentive) (hcan : c.canSearch = true)
    (hengaged : c.engaged = true) :
    c.beginSearch.2.Attentive ∧ c.beginSearch.2.Current := by
  have hopening := Request.opening_awaited
    (c.dropSearch.searches.source c.dropSearch.searches.size c.query)
  rw [beginSearch_of_canSearch hcan]
  refine ⟨⟨fun n subject r hentry hawaited => ?_, ?_⟩, ⟨?_, ?_, ?_, ?_⟩⟩
  · dsimp only at hentry ⊢
    rw [Desk.getElem?_file] at hentry
    split at hentry
    · next hn => exact ⟨_, rfl, hn.symm⟩
    · rw [h.dropSearch_awaited hentry] at hawaited
      cases hawaited
  · rintro flight ⟨⟩
    exact (Desk.file_size _ _).symm
  · rintro flight ⟨⟩
    refine ⟨rfl, rfl, rfl, _, ?_, hopening⟩
    exact (Desk.getElem?_file _ _ _).trans (if_pos rfl)
  · rintro page ⟨⟩
  · rintro error ⟨⟩
  · intro hidle
    exact absurd (hengaged.symm.trans hidle) Bool.noConfusion

/-! ## The answering side -/

theorem Attentive.touch (h : c.Attentive) (number : Nat)
    {f : Request (PageAnswer ι) → Request (PageAnswer ι)}
    (hf : ∀ r, (f r).awaited = r.awaited) :
    Attentive { c with searches := c.searches.touch number f } := by
  refine ⟨fun n subject r hentry hawaited => ?_, fun flight hflight => ?_⟩
  · have htouched := h.awaitsOnly.touch number fun r hr => (hf r).symm.trans hr
    exact Option.map_eq_some_iff.1 (htouched n subject r hentry hawaited)
  · exact (h.latest flight hflight).trans (Desk.touch_size _ _ _).symm

/-- What is shown was asked by a search that is in flight no more. -/
theorem Current.landed (h : c.Current) (hshown : c.results ≠ none ∨ c.lastError ≠ none) :
    c.flight = none := by
  cases hflight : c.flight with
  | none => rfl
  | some flight =>
      obtain ⟨_, hresults, herror, _⟩ := h.flight flight hflight
      rcases hshown with hne | hne
      · exact absurd hresults hne
      · exact absurd herror hne

/-- Late answers change nothing about what is shown. -/
theorem Current.touch (h : c.Current) (ha : c.Attentive) (number : Nat)
    {f : Request (PageAnswer ι) → Request (PageAnswer ι)} (hf : Request.Answering f) :
    Current { c with searches := c.searches.touch number f } := by
  have hsize := Desk.touch_size c.searches number f
  refine ⟨fun flight hflight => ?_, fun page hpage => ?_, fun error herror => ?_, h.idle⟩
  · obtain ⟨hquery, hresults, herror, r, hentry, hawaited, hcollected⟩ := h.flight flight hflight
    have hg := hf.ite (number = flight.number)
    exact ⟨hquery, hresults, herror, _, Desk.entry_touch hentry number f,
      (hg.awaited r).trans hawaited, (hg.collected r).trans hcollected⟩
  · obtain ⟨n, r, hn, hentry, hanswer⟩ := h.results page hpage
    have hflight := h.landed (.inl (by rw [hpage]; exact Option.some_ne_none _))
    have hawaited := ha.not_awaited hentry fun other hother => by
      rw [hflight] at hother
      cases hother
    exact ⟨n, _, hn.trans hsize.symm, Desk.entry_touch hentry number f,
      ((hf.ite (number = n)).answer r hawaited).trans hanswer⟩
  · obtain ⟨n, r, hn, hentry, hfailed⟩ := h.lastError error herror
    have hflight := h.landed (.inr (by rw [herror]; exact Option.some_ne_none _))
    have hawaited := ha.not_awaited hentry fun other hother => by
      rw [hflight] at hother
      cases hother
    have hstill := hfailed.answering hawaited (hf.ite (number = n))
    exact ⟨n, _, hn.trans hsize.symm, Desk.entry_touch hentry number f, hstill⟩

/-! ## Picking up answers -/

/-- The request of the search in flight, once the search is dropped. -/
theorem Attentive.entry_dropSearch (h : c.Attentive) {flight : Flight}
    (hflight : c.flight = some flight) {subject : Query} {r : Request (PageAnswer ι)}
    (hentry : c.searches.filed[flight.number]? = some (subject, r)) :
    flight.number + 1 = c.dropSearch.searches.size ∧
      c.dropSearch.searches.filed[flight.number]? = some (subject, r.withdraw) := by
  refine ⟨(h.latest flight hflight).trans (dropSearch_size c).symm, ?_⟩
  rw [dropSearch_searches, hflight]
  dsimp only
  rw [Desk.entry_touch hentry, if_pos rfl]

theorem Attentive.showPage (h : c.Attentive) (hengaged : c.engaged = true) {flight : Flight}
    (hflight : c.flight = some flight) {r : Request (PageAnswer ι)}
    (hentry : c.searches.filed[flight.number]? = some (c.query, r)) {page : ResultPage ι}
    (hanswer : r.answer = some (.ok page)) :
    (c.showPage page).Attentive ∧ (c.showPage page).Current := by
  have hquery : (c.showPage page).query = c.query := (showPage_offered c page).query
  have hnone : (c.showPage page).flight = none := dropSearch_flight c
  have hstill : (c.showPage page).engaged = true := (dropSearch_engaged c).trans hengaged
  obtain ⟨hn, hentry'⟩ := h.entry_dropSearch hflight hentry
  refine ⟨h.dropSearch.congr rfl rfl, ⟨fun other hother => ?_, ?_, ?_, fun hidle => ?_⟩⟩
  · rw [hnone] at hother
    cases hother
  · rintro shown ⟨⟩
    rw [hquery]
    exact ⟨flight.number, r.withdraw, hn, hentry', hanswer⟩
  · rintro error ⟨⟩
  · rw [hstill] at hidle
    cases hidle

theorem Attentive.showFailure (h : c.Attentive) (hengaged : c.engaged = true)
    (hresults : c.results = none) {flight : Flight}
    (hflight : c.flight = some flight) {r : Request (PageAnswer ι)}
    (hentry : c.searches.filed[flight.number]? = some (c.query, r)) {error : SearchError}
    (hfailed : r.FailedWith error) :
    (c.showFailure error).Attentive ∧ (c.showFailure error).Current := by
  have hquery : (c.showFailure error).query = c.query := (showFailure_beside c error).offered.query
  have hnone : (c.showFailure error).flight = none := dropSearch_flight c
  have hstill : (c.showFailure error).engaged = true := (dropSearch_engaged c).trans hengaged
  have hblank : (c.showFailure error).results = none := (dropSearch_results c).trans hresults
  obtain ⟨hn, hentry'⟩ := h.entry_dropSearch hflight hentry
  refine ⟨h.dropSearch.congr rfl rfl, ⟨fun other hother => ?_, fun page hpage => ?_, ?_,
    fun hidle => ?_⟩⟩
  · rw [hnone] at hother
    cases hother
  · rw [hblank] at hpage
    cases hpage
  · rintro shown ⟨⟩
    rw [hquery]
    exact ⟨flight.number, r.withdraw, hn, hentry', hfailed⟩
  · rw [hstill] at hidle
    cases hidle

/-- The search in flight after its answer was taken. -/
def answered (c : Controller ι) (flight : Flight) : Controller ι :=
  { c with searches := c.searches.touch flight.number Request.collect }

/-- What a tick finds of the search in flight. -/
theorem collectResults_of_flight {flight : Flight} (hflight : c.flight = some flight)
    {subject : Query} {r : Request (PageAnswer ι)}
    (hentry : c.searches.filed[flight.number]? = some (subject, r))
    (hawaited : r.awaited = true) (hcollected : r.collected = false) :
    c.collectResults = match r.answer with
      | some (.ok page) => (c.answered flight).showPage page
      | some (.error e) => (c.answered flight).showFailure (.ofLoad e)
      | none => if r.answerable then c
          else c.showFailure (.queryFailure "loader dropped the request") := by
  have hpoll := Desk.poll_of_awaited hentry hawaited hcollected
  rw [collectResults]
  split
  · next hnone =>
      rw [hflight] at hnone
      cases hnone
  · next other hother =>
      obtain rfl : other = flight := Option.some.inj (hother.symm.trans hflight)
      dsimp only
      rw [hpoll]
      cases r.answer with
      | some answer =>
          cases answer with
          | ok page => rfl
          | error e => rfl
      | none =>
          cases r.answerable with
          | true => rfl
          | false => rfl

theorem Attentive.collectResults (h : c.Attentive) (hcurrent : c.Current) :
    c.collectResults.Attentive ∧ c.collectResults.Current := by
  cases hflight : c.flight with
  | none =>
      rw [Controller.collectResults, hflight]
      exact ⟨h, hcurrent⟩
  | some flight =>
      obtain ⟨_, hresults, _, r, hentry, hawaited, hcollected⟩ := hcurrent.flight flight hflight
      -- A search in flight was begun by an engaged controller.
      have hengaged : c.engaged = true := by
        by_contra hidle
        have hnone := (hcurrent.idle (eq_false_of_ne_true hidle)).1
        rw [hflight] at hnone
        cases hnone
      have hanswered : (c.answered flight).Attentive := h.touch flight.number fun _ => rfl
      have hentry' : (c.answered flight).searches.filed[flight.number]? =
          some (c.query, r.collect) := by
        refine (Desk.entry_touch hentry flight.number _).trans ?_
        rw [if_pos rfl]
      rw [collectResults_of_flight hflight hentry hawaited hcollected]
      split
      · next page hpage => exact hanswered.showPage hengaged hflight hentry' hpage
      · next e he =>
          exact hanswered.showFailure hengaged hresults hflight hentry' (.inl ⟨e, he, rfl⟩)
      · next hnone =>
          split
          · exact ⟨h, hcurrent⟩
          · next hleft =>
              exact h.showFailure hengaged hresults hflight hentry
                (.inr ⟨hnone, eq_false_of_ne_true hleft, rfl⟩)

theorem Attentive.serveRefreshes (h : c.Attentive) (hcurrent : c.Current) :
    c.serveRefreshes.Attentive ∧ c.serveRefreshes.Current := by
  have hasked : Alike c { c with refreshes := 0 } := ⟨rfl, rfl, rfl, rfl, rfl, rfl⟩
  rw [serveRefreshes_eq]
  split
  · next hserves =>
      cases hcan : ({ c with refreshes := 0 } : Controller ι).canSearch with
      | true => exact (h.alike hasked).begin hcan hserves.2
      | false =>
          have hturned := turnDown_alike { c with refreshes := 0 }
          rw [beginSearch_of_not_canSearch hcan]
          exact ⟨(h.alike hasked).alike hturned, (hcurrent.alike hasked).alike hturned⟩
  · exact ⟨h.alike hasked, hcurrent.alike hasked⟩

/-! ## A step -/

/-- What holds of asking and showing in every state. -/
structure UpToDate (c : Controller ι) : Prop where
  attentive : c.Attentive
  current : c.phase ≠ .disposed → c.Current

theorem upToDate_of_current (h : c.Attentive ∧ c.Current) : c.UpToDate :=
  ⟨h.1, fun _ => h.2⟩

theorem UpToDate.alike (h : c.UpToDate) (hd : Alike c d)
    (hlive : d.phase ≠ .disposed → c.phase ≠ .disposed) : d.UpToDate :=
  ⟨h.attentive.alike hd, fun hne => (h.current (hlive hne)).alike hd⟩

theorem UpToDate.submit (h : c.UpToDate) (hsound : c.Sound)
    (hheeded : ∀ name ∈ c.wiring.neededFields, Heeded c.wiring c.filters.specs name) :
    c.submit.2.UpToDate := by
  rcases hsound.submit_cases with ⟨_, heq⟩ | ⟨_, _, heq⟩ | ⟨hlive, hfilled, heq⟩
  · rw [heq]
    exact h
  · rw [heq]
    exact h.alike (turnDown_alike c) id
  · rw [heq]
    have hsubmitted : c.submitted.Attentive := h.attentive.congr rfl rfl
    exact upToDate_of_current
      (hsubmitted.begin (canSearch_submitted hsound hlive hheeded hfilled) rfl)

theorem UpToDate.turnPage (h : c.UpToDate) (hsound : c.Sound)
    (hheeded : ∀ name ∈ c.wiring.neededFields, Heeded c.wiring c.filters.specs name)
    (turn : PageTurn) : (c.turnPage turn).2.UpToDate := by
  have hpaged : (c.paged turn).Attentive := h.attentive.congr rfl rfl
  rcases hsound.turnPage_cases turn with ⟨_, heq⟩ | ⟨_, _, heq⟩ |
    ⟨hlive, _, ⟨_, _, heq⟩ | ⟨hengaged, hcan, heq⟩ | ⟨hidle, heq⟩⟩
  · rw [heq]
    exact h
  · rw [heq]
    exact h
  · rw [heq]
    exact h.alike (turnDown_alike c) id
  · rw [heq]
    exact upToDate_of_current
      (hpaged.begin (canSearch_paged hsound hlive hheeded turn hcan) hengaged)
  · -- The page changes without a search, but there is nothing that it could outdate.
    rw [heq]
    obtain ⟨hflight, hresults, herror⟩ := (h.current hlive).idle hidle
    exact upToDate_of_current ⟨hpaged, current_of_idle hflight hresults herror⟩

theorem UpToDate.followAddress (h : c.UpToDate) (hsound : c.Sound) :
    c.followAddress.2.UpToDate := by
  have hread : c.read.Attentive := h.attentive.congr rfl rfl
  rcases hsound.followAddress_cases with ⟨_, heq⟩ | ⟨hlive, hsame, heq⟩ |
    ⟨_, _, ⟨hcan, heq⟩ | ⟨_, heq⟩⟩
  · rw [heq]
    exact h
  · rw [heq]
    exact h.alike (read_alike (hsound.isOpen hlive) hsame) id
  · rw [heq]
    have hengaged : ({ c.read with engaged := true } : Controller ι).Attentive :=
      hread.congr rfl rfl
    exact upToDate_of_current (hengaged.begin hcan rfl)
  · rw [heq]
    refine upToDate_of_current ⟨hread.dropSearch.congr rfl rfl, ?_⟩
    exact current_of_idle (dropSearch_flight c.read) rfl rfl

theorem UpToDate.poll (h : c.UpToDate) : c.poll.UpToDate := by
  by_cases hlive : c.phase = .disposed
  · rw [poll_of_disposed hlive]
    exact h
  · have hsync := syncAddress_alike c
    have hserved := Attentive.serveRefreshes (h.attentive.alike hsync)
      ((h.current hlive).alike hsync)
    have hchoices := collectChoices_alike c.syncAddress.serveRefreshes
    rw [Controller.poll, if_neg hlive]
    exact upToDate_of_current
      ((hserved.1.alike hchoices).collectResults (hserved.2.alike hchoices))

theorem UpToDate.touch (h : c.UpToDate) (number : Nat)
    {f : Request (PageAnswer ι) → Request (PageAnswer ι)} (hf : Request.Answering f) :
    UpToDate { c with searches := c.searches.touch number f } :=
  ⟨h.attentive.touch number hf.awaited,
    fun hlive => (h.current hlive).touch h.attentive number hf⟩

theorem UpToDate.dispose (h : c.UpToDate) : c.dispose.UpToDate := by
  rw [Controller.dispose]
  split
  · exact h
  · refine ⟨?_, fun hlive => absurd rfl hlive⟩
    have hdropped : c.dropSearch.dropPreload.Attentive :=
      h.attentive.dropSearch.congr (by rw [dropPreload_eq]) (by rw [dropPreload_eq])
    exact ⟨hdropped.awaited, hdropped.latest⟩

/-- Every action keeps what is shown up to date, if the needed controls are heeded. -/
theorem UpToDate.step (h : c.UpToDate) (hsound : c.Sound)
    (hheeded : ∀ name ∈ c.wiring.neededFields, Heeded c.wiring c.filters.specs name)
    (action : Action ι) : (c.step action).UpToDate := by
  cases action with
  | edit edit => exact h.alike ⟨rfl, rfl, rfl, rfl, rfl, rfl⟩ id
  | submit => exact h.submit hsound hheeded
  | turnPage turn => exact h.turnPage hsound hheeded turn
  | visit params => exact h.alike ⟨rfl, rfl, rfl, rfl, rfl, rfl⟩ id
  | navigate patch => exact h.alike ⟨rfl, rfl, rfl, rfl, rfl, rfl⟩ id
  | followAddress => exact h.followAddress hsound
  | poll => exact h.poll
  | takeHandle =>
      rw [step_takeHandle, takeHandle_eq]
      exact h.alike ⟨rfl, rfl, rfl, rfl, rfl, rfl⟩ id
  | refresh handle =>
      rw [step_refresh, refresh_eq]
      exact h.alike ⟨rfl, rfl, rfl, rfl, rfl, rfl⟩ id
  | complete number outcome =>
      show UpToDate { c with searches := (c.searches.complete number outcome).2 }
      rw [Desk.complete_eq_touch]
      exact h.touch number (Request.answering_complete outcome)
  | abandon number =>
      show UpToDate { c with searches := (c.searches.abandon number).2 }
      rw [Desk.abandon_eq_touch]
      exact h.touch number Request.answering_abandon
  | completePreload outcome => exact h.alike ⟨rfl, rfl, rfl, rfl, rfl, rfl⟩ id
  | abandonPreload => exact h.alike ⟨rfl, rfl, rfl, rfl, rfl, rfl⟩ id
  | dispose => exact h.dispose

/-! ## A run -/

theorem UpToDate.run (h : c.UpToDate) (hsound : c.Sound)
    (hheeded : ∀ name ∈ c.wiring.neededFields, Heeded c.wiring c.filters.specs name)
    (actions : List (Action ι)) : (c.run actions).UpToDate := by
  induction actions generalizing c with
  | nil => exact h
  | cons action rest ih =>
      have hcontinues := hsound.step_continues action
      refine ih (h.step hsound hheeded action) (hsound.step action) ?_
      rwa [hcontinues.wiring, hcontinues.specs]

/-- If a search is possible, some shown field is off its default. -/
theorem showsFilter_of_canSearch
    (hheeded : ∀ name ∈ c.wiring.neededFields, Heeded c.wiring c.filters.specs name)
    (hcan : c.canSearch = true) : c.showsFilter = true := by
  obtain ⟨name, hname, hmoved⟩ := List.any_eq_true.1 hcan
  obtain ⟨spec, hspec, htakes, _⟩ := hheeded name hname
  obtain ⟨rfl, hvisible, _⟩ := FieldSpec.takes_iff.1 htakes
  exact List.any_eq_true.2 ⟨spec, List.mem_filter.2 ⟨hspec, by simp [hvisible]⟩, hmoved⟩

section Run

variable {wiring : Wiring} {specs : List FieldSpec}
  {source : Nat → Query → Treatment (PageAnswer ι)}
  {preloadSource : Nat → Query → Treatment (PageAnswer Choice)} {bar : AddressBar}

theorem upToDate_of_create
    (hcreate : create wiring specs (.ofSource source) (.ofSource preloadSource) bar = .ok c)
    (hheeded : ∀ name ∈ wiring.neededFields, Heeded wiring specs name) : c.UpToDate := by
  obtain ⟨filters, hfilters, _, rfl⟩ := create_eq_ok_iff.1 hcreate
  have hspecs := arrived_specs hfilters wiring (.ofSource source) (.ofSource preloadSource) bar
  have hattentive : (arrived wiring filters (.ofSource source) (.ofSource preloadSource)
      bar).Attentive := by
    refine ⟨fun n subject r hentry => ?_, fun flight hflight => ?_⟩
    · cases hentry
    · cases hflight
  rw [started]
  split
  · next hcan =>
      have hshows := showsFilter_of_canSearch (hspecs.symm ▸ hheeded) hcan
      exact upToDate_of_current (hattentive.begin hcan hshows)
  · exact upToDate_of_current ⟨hattentive, current_of_idle rfl rfl rfl⟩

end Run

/-! ## What is seen -/

/-- What is in flight or shown belongs to the search begun last, and that one
asked for what the filters say. -/
structure ShowsAnswer (c : Controller ι) : Prop where
  flight : ∀ flight, c.flight = some flight →
    flight.query = c.query ∧ flight.number + 1 = c.searches.size ∧
      ∃ r, c.searches.filed.getLast? = some (c.query, r)
  results : ∀ page, c.results = some page →
    ∃ r, c.searches.filed.getLast? = some (c.query, r) ∧ r.answer = some (.ok page)
  lastError : ∀ error, c.lastError = some error →
    ∃ r, c.searches.filed.getLast? = some (c.query, r) ∧ r.FailedWith error

/-- Whoever has still to answer another search than the last is refused. -/
def RefusesOthers (c : Controller ι) : Prop :=
  ∀ number subject r, c.searches.filed[number]? = some (subject, r) →
    number + 1 < c.searches.size → ∀ outcome,
      (c.searches.complete number outcome).1 =
        if r.answerable then some (.error .canceled) else none

theorem UpToDate.showsAnswer (h : c.UpToDate) (hlive : c.phase ≠ .disposed) :
    c.ShowsAnswer := by
  have hcurrent := h.current hlive
  refine ⟨fun flight hflight => ?_, fun page hpage => ?_, fun error herror => ?_⟩
  · obtain ⟨hquery, _, _, r, hentry, _⟩ := hcurrent.flight flight hflight
    have hlatest := h.attentive.latest flight hflight
    exact ⟨hquery, hlatest, r, Desk.getLast?_of_entry hlatest hentry⟩
  · obtain ⟨n, r, hn, hentry, hanswer⟩ := hcurrent.results page hpage
    exact ⟨r, Desk.getLast?_of_entry hn hentry, hanswer⟩
  · obtain ⟨n, r, hn, hentry, hfailed⟩ := hcurrent.lastError error herror
    exact ⟨r, Desk.getLast?_of_entry hn hentry, hfailed⟩

theorem Attentive.refusesOthers (h : c.Attentive) : c.RefusesOthers := by
  intro number subject r hentry hearlier outcome
  refine Desk.complete_of_not_awaited hentry (h.not_awaited hentry ?_) outcome
  intro flight hflight hnumber
  have hlatest := h.latest flight hflight
  omega

/-- Over the standard fields a controller can always be built. As long as it
lives, what it shows answers the filters as they are; and for good, answers to
any search but the last are refused. -/
theorem standardFields_showAnswer (settings : Settings)
    (source : Nat → Query → Treatment (PageAnswer ι))
    (preloadSource : Nat → Query → Treatment (PageAnswer Choice)) (bar : AddressBar) :
    ∃ c : Controller ι,
      create (.ofSettings settings) standardFields (.ofSource source)
        (.ofSource preloadSource) bar = .ok c ∧
      ∀ actions, ((c.run actions).phase ≠ .disposed → (c.run actions).ShowsAnswer) ∧
        (c.run actions).RefusesOthers := by
  obtain ⟨filters, hfilters, hwired⟩ := standardFields_accepted settings
  have hheeded := standardFields_heeded settings
  refine ⟨_, create_eq_ok_iff.2 ⟨filters, hfilters, hwired, rfl⟩, fun actions => ?_⟩
  have hcreate : create (.ofSettings settings) standardFields (.ofSource source)
      (.ofSource preloadSource) bar = .ok _ :=
    create_eq_ok_iff.2 ⟨filters, hfilters, hwired, rfl⟩
  obtain ⟨hwiring, hspecs⟩ := declarations_of_create hcreate []
  have hrun := (upToDate_of_create hcreate hheeded).run (sound_of_create hcreate)
    (hwiring.symm ▸ hspecs.symm ▸ hheeded) actions
  exact ⟨hrun.showsAnswer, hrun.attentive.refusesOthers⟩

end Controller

end RecordSearch
