import RecordSearch.Proofs.Controller.Settling
import RecordSearch.Proofs.Filters.Choices

/-!
# Where facets go

A page of results brings facets under keys of the backend's making. Some are
names of fields, some are aliases, so that two of them may mean one field, and
some mean nothing here. All are offered one after another in the order of the
keys, and what comes of that is said for each field by itself: the last facet
under one of its keys gives its choices, one for each count.

Nothing else may come of it. The stage of a tick that picks the page up shows it
as it was delivered, and leaves values, announcements, form and address alone.
-/

namespace RecordSearch

deriving instance DecidableEq for ResultPage

/-- What a field offers after facets: the counts under the last of its keys, as they
were ranked, or what it offered before if they have none of its keys. -/
inductive FieldSpec.Faceted (spec : FieldSpec) (facets : Facets) (before : List Choice) :
    List Choice → Prop
  | counted {earlier later : List (String × List ValueCount)} {key : String}
      {counts : List ValueCount} (hsplit : facets.toList = earlier ++ (key, counts) :: later)
      (hkey : spec.hasKey key = true)
      (hlater : ∀ entry ∈ later, spec.hasKey entry.1 = false) :
      Faceted spec facets before (counts.map fun facet =>
        ⟨facet.value, facet.value ++ " (" ++ toString facet.count ++ ")", some facet.count⟩)
  | unnamed (hkeys : ∀ entry ∈ facets.toList, spec.hasKey entry.1 = false) :
      Faceted spec facets before before

theorem Facets.toList_toChoices (facets : Facets) :
    facets.toChoices.toList =
      facets.toList.map fun entry => (entry.1, entry.2.map ValueCount.toChoice) := rfl

theorem Facets.toList_toChoices_erase (facets : Facets) (key : String) :
    (Facets.toChoices (facets.erase key)).toList =
      facets.toChoices.toList.filter (·.1 ≠ key) := by
  rw [toList_toChoices, toList_toChoices, List.filter_map]
  rfl

/-- Facets are described by the choices that they offer last. -/
theorem FieldSpec.faceted_iff {spec : FieldSpec} {facets : Facets}
    {before after : List Choice} :
    spec.Faceted facets before after ↔
      (spec.lastOffer? facets.toChoices.toList).getD before = after := by
  rw [Facets.toList_toChoices]
  constructor
  · intro h
    cases h with
    | @counted earlier later key counts hsplit hkey hlater =>
        have hlast : spec.lastOffer? (facets.toList.map fun entry =>
            (entry.1, entry.2.map ValueCount.toChoice)) =
              some (counts.map ValueCount.toChoice) := by
          rw [hsplit, List.map_append, List.map_cons]
          refine lastOffer?_eq_some_iff.2 ⟨_, _, _, rfl, hkey, fun other hother => ?_⟩
          obtain ⟨entry, hentry, rfl⟩ := List.mem_map.1 hother
          exact hlater entry hentry
        rw [hlast]
        rfl
    | unnamed hkeys =>
        have hlast : spec.lastOffer? (facets.toList.map fun entry =>
            (entry.1, entry.2.map ValueCount.toChoice)) = none := by
          refine lastOffer?_eq_none_iff.2 fun other hother => ?_
          obtain ⟨entry, hentry, rfl⟩ := List.mem_map.1 hother
          exact hkeys entry hentry
        rw [hlast]
        rfl
  · rintro rfl
    cases hlast : spec.lastOffer? (facets.toList.map fun entry =>
        (entry.1, entry.2.map ValueCount.toChoice)) with
    | none =>
        refine .unnamed fun entry hentry => ?_
        exact lastOffer?_eq_none_iff.1 hlast _ (List.mem_map_of_mem hentry)
    | some choices =>
        obtain ⟨before, key, after, hsplit, hkey, hlater⟩ := lastOffer?_eq_some_iff.1 hlast
        obtain ⟨earlier, rest, hfacets, _, hrest⟩ := List.map_eq_append_iff.1 hsplit
        obtain ⟨entry, later, rfl, heq, rfl⟩ := List.map_eq_cons_iff.1 hrest
        cases heq
        refine .counted hfacets hkey fun other hother => ?_
        exact hlater _ (List.mem_map_of_mem hother)

namespace Controller

variable {ι : Type} {c : Controller ι}

/-- A tick up to where results are picked up. -/
def beforeResults (c : Controller ι) : Controller ι :=
  c.syncAddress.serveRefreshes.collectChoices

theorem poll_eq_collectResults (hlive : c.phase ≠ .disposed) :
    c.poll = c.beforeResults.collectResults := by
  rw [poll, if_neg hlive, beforeResults]

theorem beforeResults_isClosed (hlive : c.phase ≠ .disposed) :
    c.beforeResults.filters.isClosed = c.filters.isClosed := by
  rw [← poll_isClosed hlive, poll_eq_collectResults hlive, Filters.isClosed, Filters.isClosed,
    (collectResults_offered c.beforeResults).valueFeed]

/-- The second controller is the first after it has picked up a page of results. -/
structure PickedUp (page : ResultPage ι) (s t : Controller ι) : Prop where
  choices : ∀ spec ∈ s.filters.specs, ∀ key, spec.hasKey key = true →
    spec.Faceted page.facets (s.filters.choices key) (t.filters.choices key)
  /-- A facet for no field might as well not be there. -/
  unknown : ∀ key, s.filters.contains key = false →
    t.filters = (s.showPage { page with facets := page.facets.erase key }).filters
  slots : t.filters.slots = s.filters.slots
  valueFeed : t.filters.valueFeed = s.filters.valueFeed
  form : t.form = s.form
  addressBar : t.addressBar = s.addressBar
  searches : t.searches.subjects = s.searches.subjects
  preloads : t.preloads = s.preloads
  results : t.results = some page
  lastError : t.lastError = none
  flight : t.flight = none
  phase : t.phase = .ready

theorem showPage_filters (c : Controller ι) (page : ResultPage ι) :
    (c.showPage page).filters = c.filters.offer page.facets.toChoices.toList := by
  have hkept : c.dropSearch.filters = c.filters := (dropSearch_beside c).filters
  rw [← hkept]
  rfl

theorem showPage_eq (c : Controller ι) (page : ResultPage ι) :
    c.showPage page = { c with
      filters := c.filters.offer page.facets.toChoices.toList
      searches := c.dropSearch.searches
      flight := none
      timed := true
      results := some page
      lastError := none
      phase := .ready } := by
  rw [← showPage_filters, showPage, offerFacets, dropSearch_eq]

theorem pickedUp_showPage (hopen : c.filters.isClosed = false) (page : ResultPage ι) :
    PickedUp page c (c.showPage page) := by
  rw [showPage_eq]
  have hset := Filters.setChoices_foldl_keeps page.facets.toChoices.toList c.filters
  refine ⟨fun spec hspec key hkey => ?_, fun key hunknown => ?_, hset.1, hset.2, rfl, rfl, ?_,
    rfl, rfl, rfl, rfl, rfl⟩
  · dsimp only
    rw [(Filters.takes_offer hopen _).choices hspec hkey, FieldSpec.faceted_iff]
  · rw [showPage_filters, Facets.toList_toChoices_erase]
    refine (Filters.offer_filter c.filters fun offer _ hleft => ?_).symm
    obtain rfl : offer.1 = key := by simpa using hleft
    exact hunknown
  · rw [dropSearch_searches]
    split
    · exact Desk.touch_subjects _ _ _
    · rfl

theorem collectResults_of_ready {flight : Flight} (hflight : c.flight = some flight)
    {page : ResultPage ι} (hanswer : (c.searches.poll flight.number).1 = .ready (.ok page)) :
    c.collectResults = ({ c with searches := (c.searches.poll flight.number).2 } :
      Controller ι).showPage page := by
  rw [collectResults, hflight]
  dsimp only
  rw [hanswer]

theorem pickedUp_collectResults (hopen : c.filters.isClosed = false) {flight : Flight}
    (hflight : c.flight = some flight) {page : ResultPage ι}
    (hanswer : (c.searches.poll flight.number).1 = .ready (.ok page)) :
    PickedUp page c c.collectResults := by
  rw [collectResults_of_ready hflight hanswer]
  have h := pickedUp_showPage
    (c := { c with searches := (c.searches.poll flight.number).2 }) hopen page
  refine ⟨h.choices, fun key hunknown => ?_, h.slots, h.valueFeed, h.form, h.addressBar, ?_,
    h.preloads, h.results, h.lastError, h.flight, h.phase⟩
  · refine (h.unknown key hunknown).trans ?_
    rw [showPage_filters, showPage_filters]
  · exact h.searches.trans (Desk.poll_subjects _ _)

/-- In every state a tick that finds a page of results takes its facets to the fields
that they name, shows the page as it is, and does nothing else with it. -/
theorem poll_picksUp {wiring : Wiring} {specs : List FieldSpec}
    {searches : Desk Query (PageAnswer ι)} {preloads : Desk Query (PageAnswer Choice)}
    {bar : AddressBar} (hcreate : create wiring specs searches preloads bar = .ok c)
    {actions : List (Action ι)} (hlive : (c.run actions).phase ≠ .disposed)
    {flight : Flight} (hflight : (c.run actions).beforeResults.flight = some flight)
    {page : ResultPage ι}
    (hanswer : ((c.run actions).beforeResults.searches.poll flight.number).1 =
      .ready (.ok page)) :
    (c.run actions).poll = (c.run actions).beforeResults.collectResults ∧
      PickedUp page (c.run actions).beforeResults
        (c.run actions).beforeResults.collectResults := by
  have hopen := ((sound_of_create hcreate).run actions).isOpen hlive
  rw [← beforeResults_isClosed hlive] at hopen
  exact ⟨poll_eq_collectResults hlive, pickedUp_collectResults hopen hflight hanswer⟩

/-- A page with counts under both keys of the text and under one that means nothing. -/
def ambiguous : ResultPage Unit :=
  ⟨[()], .ofList [("query", [⟨"b", 2⟩, ⟨"a", 1⟩]), (textField, [⟨"a", 7⟩]),
    ("lang", [⟨"en", 3⟩])], 1, 1⟩

/-- The first search is answered with it. -/
def ambiguouslyAnswered : List (Action Unit) := [.complete 0 (.ok ambiguous)]

/-- The alias comes after the name, so its counts are shown. -/
theorem poll_picksUp_ambiguous :
    ∃ (c : Controller Unit) (flight : Flight),
      create .default standardFields (.ofSource fun _ _ => .hold) (.ofSource fun _ _ => .hold)
        (.ofUrl "/search?q=a") = .ok c ∧
      (c.run ambiguouslyAnswered).phase ≠ .disposed ∧
      (c.run ambiguouslyAnswered).beforeResults.flight = some flight ∧
      ((c.run ambiguouslyAnswered).beforeResults.searches.poll flight.number).1 =
        .ready (.ok ambiguous) ∧
      PickedUp ambiguous (c.run ambiguouslyAnswered).beforeResults
        (c.run ambiguouslyAnswered).poll ∧
      (c.run ambiguouslyAnswered).poll.filters.choices textField =
        [⟨"b", "b (2)", some 2⟩, ⟨"a", "a (1)", some 1⟩] := by
  obtain ⟨c, hcreate, hcheck⟩ := exists_ok_of_check
    (create .default standardFields (.ofSource fun _ _ => .hold)
      (.ofSource fun _ _ => .hold) (.ofUrl "/search?q=a"))
    (fun c : Controller Unit =>
      let d := c.run ambiguouslyAnswered
      decide (d.phase ≠ .disposed ∧ d.beforeResults.flight.map (·.number) = some 0 ∧
        (d.beforeResults.searches.poll 0).1 = .ready (.ok ambiguous) ∧
        d.poll.filters.choices textField =
          [⟨"b", "b (2)", some 2⟩, ⟨"a", "a (1)", some 1⟩]))
    (by decide +kernel)
  obtain ⟨hlive, hnumber, hanswer, hchoices⟩ := of_decide_eq_true hcheck
  obtain ⟨flight, hflight, hnumber⟩ := Option.map_eq_some_iff.1 hnumber
  rw [← hnumber] at hanswer
  obtain ⟨hpoll, hpicked⟩ := poll_picksUp hcreate hlive hflight hanswer
  rw [← hpoll] at hpicked
  exact ⟨c, flight, hcreate, hlive, hflight, hanswer, hpicked, hchoices⟩

end Controller

end RecordSearch
