import RecordSearch.CommandLine.Run
import RecordSearch.Proofs.Controller.Served
import RecordSearch.Proofs.Fixture
import RecordSearch.Proofs.Storage

/-!
# What the search command computes

The search command drives a controller as a person would: it opens an address,
submits if that has not searched, waits, and turns pages forward and back, with
a wait behind each turn. What it prints in the end can be told without any of
this, and without the times of the answers, if only they come in time. It is the
answer of the fixture to one query, made of what the address puts into effect and
of one page number, which is the page of the address moved forward and back and
cut off at both ends.

The number is read three times on the way: from the address, from the filters
at each turn, and from the query by the fixture. That the three agree is a matter
of the standard fields. So is the other half: an address that names neither a
text nor a category leaves a form that cannot be submitted, hence the command
fails before it has searched for anything.
-/

namespace RecordSearch.CommandLine

open RecordSearch.Controller

/-- The parameters that an argument stands for. -/
def routed (query : String) : Parameters :=
  .parse (addressOf query)

/-- A text or a category is named, and is not blank. -/
def NamesQuery (params : Parameters) : Prop :=
  (∃ text, Text.normalize? ((params.get? textField).or (params.get? textAlias)) = some text) ∨
    ∃ category, Text.normalize? (params.get? categoryField) = some category

/-- The page that parameters name. -/
def routedPage (params : Parameters) : UInt32 :=
  pageNumber ((params.get? pageField).map Text.trim)

/-- What parameters put into effect. -/
def routedValues (params : Parameters) : Values :=
  .ofList (standardFields.filterMap fun spec => (spec.reading params).map (spec.name, ·))

/-- The query for a page of what parameters put into effect. -/
def routedQuery (settings : Settings) (params : Parameters) (page : UInt32) : Query :=
  ⟨(routedValues params).insert pageField (toString page), max settings.pageSize 1⟩

/-! ## The query of an address -/

theorem get?_routedValues (params : Parameters) {spec : FieldSpec} (hspec : spec ∈ standardFields) :
    (routedValues params).get? spec.name = spec.reading params := by
  have hown : ∀ s ∈ standardFields, ∀ t ∈ standardFields, s.name = t.name → s = t := by
    decide +kernel
  refine KeyMap.get?_ofList_filterMap hspec fun other hother hname => ?_
  rw [hown other hother spec hspec hname]

theorem get?_routedQuery (settings : Settings) (params : Parameters) (page : UInt32)
    {spec : FieldSpec} (hspec : spec ∈ standardFields) (hname : spec.name ≠ pageField) :
    (routedQuery settings params page).get? spec.name = spec.reading params := by
  rw [Query.get?, routedQuery, KeyMap.get?_insert, if_neg hname, get?_routedValues params hspec]

theorem routedQuery_page (settings : Settings) (params : Parameters) {page : UInt32}
    (h : 1 ≤ page) : (routedQuery settings params page).page = page := by
  rw [Query.page_eq, Query.get?, routedQuery, KeyMap.get?_insert, if_pos rfl,
    pageNumber_toString h]

theorem carriesQuery_iff (settings : Settings) (params : Parameters) :
    CarriesQuery (.ofSettings settings) standardFields params ↔ NamesQuery params := by
  have htext : ∀ spec ∈ standardFields, spec.hasKey textField = true →
      spec = standardFields[0] := by
    decide +kernel
  have hcategory : ∀ spec ∈ standardFields, spec.hasKey categoryField = true →
      spec = standardFields[4] := by
    decide +kernel
  have htextKey : standardFields[0].hasKey textField = true := by decide +kernel
  have hcategoryKey : standardFields[4].hasKey categoryField = true := by decide +kernel
  have hgiven : Filters.parameterFor params standardFields[4] = params.get? categoryField :=
    Option.or_none
  constructor
  · rintro ⟨name, hname, spec, hspec, hkey, v, hv, _⟩
    rcases List.mem_cons.1 hname with rfl | hname
    · rw [htext spec hspec hkey] at hv
      exact .inl ⟨v, hv⟩
    · obtain rfl := List.mem_singleton.1 hname
      rw [hcategory spec hspec hkey, hgiven] at hv
      exact .inr ⟨v, hv⟩
  · rintro (⟨v, hv⟩ | ⟨v, hv⟩)
    · exact ⟨textField, List.mem_cons_self, standardFields[0], by decide, htextKey, v, hv,
        (Option.some_ne_none v).symm⟩
    · refine ⟨categoryField, List.mem_cons_of_mem _ List.mem_cons_self, standardFields[4],
        by decide, hcategoryKey, v, ?_, (Option.some_ne_none v).symm⟩
      rw [hgiven]
      exact hv

/-! ## The values on the way -/

/-- Apart from the page, a controller has the values that parameters give. -/
structure Follows (settings : Settings) (params : Parameters) (c : Controller Credential) :
    Prop where
  wiring : c.wiring = .ofSettings settings
  specs : c.filters.specs = standardFields
  slots : ∀ spec ∈ standardFields, spec.hasKey pageField = false →
    (spec, Text.normalize? (Filters.parameterFor params spec)) ∈ c.filters.slots

variable {settings : Settings} {params : Parameters} {c d : Controller Credential}
  {data : Fixture} {services : Nat → Service}

theorem Follows.pageApart (h : Follows settings params c) (hd : PageApart c d) :
    Follows settings params d := by
  refine ⟨hd.wiring.trans h.wiring, hd.specs.trans h.specs, fun spec hspec hother => ?_⟩
  refine hd.slots spec _ ?_ (h.slots spec hspec hother)
  rw [h.wiring]
  exact hother

theorem Follows.field (h : Follows settings params c) {spec : FieldSpec}
    (hspec : spec ∈ standardFields) (hother : spec.hasKey pageField = false) :
    ∃ field ∈ c.filters.fields, field.spec = spec ∧
      field.value = Text.normalize? (Filters.parameterFor params spec) :=
  Filters.mem_slots.1 (h.slots spec hspec hother)

theorem Follows.get?_eq (h : Follows settings params c) {spec : FieldSpec}
    (hspec : spec ∈ standardFields) (hother : spec.hasKey pageField = false)
    (hdefault : spec.defaultValue = none) (page : UInt32) :
    c.query.get? spec.name = (routedQuery settings params page).get? spec.name := by
  have hname : spec.name ≠ pageField := by
    intro hsame
    rw [FieldSpec.hasKey, hsame, beq_self_eq_true, Bool.true_or] at hother
    cases hother
  obtain ⟨field, hfield, rfl, hvalue⟩ := h.field hspec hother
  rw [get?_routedQuery settings params page hspec hname, FieldSpec.reading, FieldSpec.effective,
    hdefault, Option.or_none, ← hvalue, Query.get?, query, Filters.get?_values hfield,
    FieldState.queryEntry_of_no_default hdefault]

/-- What a controller asks for on the way is, to a fixture, the query of the address
for the page that it shows. -/
theorem Follows.sameSearch (h : Follows settings params c) (hsound : c.Sound)
    (hcan : c.canSearch = true) :
    c.query.SameSearch (routedQuery settings params c.currentPage) := by
  have hwired : PageWired c.wiring c.filters.specs := by
    rw [h.wiring, h.specs]
    exact standardFields_pageWired settings
  have hget (spec : FieldSpec) (hspec : spec ∈ standardFields)
      (hother : spec.hasKey pageField = false) (hdefault : spec.defaultValue = none) :=
    h.get?_eq hspec hother hdefault c.currentPage
  have hshown : 1 ≤ c.currentPage := Filters.one_le_page _ _
  refine ⟨hget standardFields[0] (by decide) (by decide +kernel) rfl,
    hget standardFields[2] (by decide) (by decide +kernel) rfl,
    hget standardFields[3] (by decide) (by decide +kernel) rfl,
    hget standardFields[4] (by decide) (by decide +kernel) rfl, ?_, ?_, ?_⟩
  · -- At its default the toggle is in no query of a controller, and only its state counts.
    have hspec : standardFields[5] ∈ standardFields := by decide
    have hother : standardFields[5].hasKey pageField = false := by decide +kernel
    obtain ⟨field, hfield, hfieldSpec, hvalue⟩ := h.field hspec hother
    have hasked : c.query.get? inactiveField = field.queryEntry.map (·.2) := by
      rw [Query.get?, query, ← Filters.get?_values hfield, hfieldSpec]
      rfl
    have hrouted : (routedQuery settings params c.currentPage).get? inactiveField =
        field.effective := by
      rw [FieldState.effective, hfieldSpec, hvalue]
      exact get?_routedQuery settings params c.currentPage hspec (by decide +kernel)
    rw [Query.toggle, Query.toggle, hasked, hrouted]
    exact FieldState.toggle_queryEntry (by rw [hfieldSpec]; rfl)
  · rw [(asked_query hsound hwired hcan).page, routedQuery_page settings params hshown]
  · show c.wiring.pageSize = _
    rw [h.wiring]
    rfl

/-! ## Waiting and turning pages -/

theorem exists_awaitSearch (h : Served services data.search c)
    (hpage : HasPage services data.search c) (hserved : ∀ number, (services number).InTime) :
    ∃ d, awaitSearch data services c = .ok d ∧ Served services data.search d ∧
      ShowsPage data.search d ∧ PageApart c d ∧ d.currentPage = c.currentPage := by
  obtain ⟨d, hawait, hd⟩ := h.await hpage hserved
  refine ⟨d, ?_, hd⟩
  rw [awaitSearch, hawait]

/-- Turning pages comes to an end with the page shown that it leads to. -/
theorem exists_turnPages (hserved : ∀ number, (services number).InTime) (turn : PageTurn) (n : Nat)
    (h : Served services data.search c) (hshows : ShowsPage data.search c) :
    ∃ d, turnPages data services turn n c = .ok d ∧ Served services data.search d ∧
      ShowsPage data.search d ∧ PageApart c d ∧
      d.currentPage = turn.target^[n] c.currentPage := by
  induction n generalizing c with
  | zero => exact ⟨c, rfl, h, hshows, .refl c, rfl⟩
  | succ n ih =>
      obtain ⟨page, hok, hturned, hpage, hmoved, hled⟩ := h.turnPage hshows turn
      obtain ⟨e, hawait, hwaited, hshown, hkept, hstayed⟩ :=
        exists_awaitSearch hturned hpage hserved
      obtain ⟨d, hd, hdone, hended, happart, hleft⟩ := ih hwaited hshown
      have hturn : c.turnPage turn = (.ok page, (c.turnPage turn).2) := Prod.ext hok rfl
      refine ⟨d, ?_, hdone, hended, (hmoved.trans hkept).trans happart, ?_⟩
      · rw [turnPages, hturn]
        dsimp only
        rw [hawait]
        exact hd
      · rw [hleft, hstayed, hled, Function.iterate_succ_apply]

/-! ## Where the command begins -/

theorem routedPage_eq (params : Parameters) :
    FieldState.shownPage ⟨standardFields[1],
      Text.normalize? (Filters.parameterFor params standardFields[1]), none⟩ =
      routedPage params := by
  have hfirst : pageNumber (some (Text.trim "1")) = 1 := by decide +kernel
  have hblank : pageNumber (some "") = 1 := by decide +kernel
  have hgiven : Filters.parameterFor params standardFields[1] = params.get? pageField :=
    Option.or_none
  rw [hgiven, routedPage, FieldState.shownPage, FieldState.effective, FieldSpec.effective]
  cases params.get? pageField with
  | none => exact hfirst
  | some raw =>
      rw [Text.normalize?, Option.bind_some, Option.map_some]
      cases hv : Text.normalize raw with
      | none =>
          have htrim : Text.trim raw = "" := by
            rw [Text.trim, Text.normalize_eq_none_iff.1 hv]
          rw [htrim]
          exact hfirst.trans hblank.symm
      | some v =>
          obtain ⟨_, rfl⟩ := Text.normalize_eq_some_iff.1 hv
          rw [Option.some_or, Option.map_some, Text.trim_trim]

variable {filters : Filters} {searches : Desk Query (PageAnswer Credential)}
  {preloads : Desk Query (PageAnswer Choice)} {bar : AddressBar}

theorem follows_arrived (hfilters : Filters.ofSpecs standardFields = .ok filters) :
    Follows settings bar.current
      (arrived (.ofSettings settings) filters searches preloads bar) := by
  refine ⟨rfl, arrived_specs hfilters _ searches preloads bar, fun spec hspec _ => ?_⟩
  rw [arrived_slots hfilters _ searches preloads bar]
  exact List.mem_map.2 ⟨spec, hspec, rfl⟩

theorem arrived_currentPage (hfilters : Filters.ofSpecs standardFields = .ok filters) :
    (arrived (.ofSettings settings) filters searches preloads bar).currentPage =
      routedPage bar.current := by
  have hkey : standardFields[1].hasKey pageField = true := by decide +kernel
  rw [← routedPage_eq]
  exact currentPage_of_slots (arrived_slots hfilters _ searches preloads bar) (by decide) hkey

/-- A form that was filled from an address without a query cannot be submitted. -/
theorem isFilled_arrived (hfilters : Filters.ofSpecs standardFields = .ok filters)
    (hblank : ¬ NamesQuery bar.current) :
    (arrived (.ofSettings settings) filters searches preloads bar).isFilled = false := by
  have hplain : ∀ name ∈ Wiring.default.neededFields, ∃ spec ∈ standardFields,
      spec.name = name ∧ spec.hidden = false ∧ spec.defaultValue = none := by
    decide +kernel
  rw [isFilled, List.any_eq_false]
  intro name hname hholds
  obtain ⟨spec, hspec, rfl, hvisible, hdefault⟩ := hplain name hname
  have hdeclared : spec ∈ (arrived (.ofSettings settings) filters searches preloads
      bar).filters.specs := by
    rwa [arrived_specs hfilters]
  obtain ⟨field, hfield, rfl⟩ := List.mem_map.1 hdeclared
  have hcontrol : (arrived (.ofSettings settings) filters searches preloads bar).form.get?
      field.spec.name = field.effective := Form.get?_refill hfield hvisible _
  rw [Form.holds, KeyMap.contains_eq, ← Form.get?, hcontrol, FieldState.effective,
    FieldSpec.effective, hdefault, Option.or_none, Option.isSome_iff_exists] at hholds
  obtain ⟨v, hv⟩ := hholds
  -- The field with this text would have made a query.
  refine hblank ((carriesQuery_iff settings bar.current).1
    ((canSearch_arrived hfilters _ searches preloads bar).1 (canSearch_iff.2 ?_)))
  exact ⟨field.spec.name, hname, field, hfield, field.spec.hasKey_name, v, hv, by simp [hdefault]⟩

/-- On an address without a query a controller does not search, and cannot be made
to by submitting its form. -/
theorem exists_idle (data : Fixture) (services : Nat → Service) (settings : Settings)
    (bar : AddressBar) (hblank : ¬ NamesQuery bar.current) :
    ∃ c, data.controller services (.ofSettings settings) standardFields bar = .ok c ∧
      c.isSearching = false ∧ c.submit.1 = .error (.blankQuery [textField, categoryField]) := by
  obtain ⟨filters, hfilters, hwired⟩ := standardFields_accepted settings
  have hcan : ¬ (arrived (.ofSettings settings) filters (.ofSource (data.searchSource services))
      (.ofSource data.kindSource) bar).canSearch = true := fun hcan =>
    hblank ((carriesQuery_iff settings _).1 ((canSearch_arrived hfilters _ _ _ _).1 hcan))
  refine ⟨_, create_eq_ok_iff.2 ⟨filters, hfilters, hwired, rfl⟩, ?_⟩
  rw [started, if_neg hcan]
  have hlive : (arrived (.ofSettings settings) filters (.ofSource (data.searchSource services))
      (.ofSource data.kindSource) bar).phase ≠ .disposed := Phase.noConfusion
  rw [submit_of_blank hlive (isFilled_arrived hfilters hblank)]
  exact ⟨rfl, rfl⟩

/-- On any other address it searches, for the page of the address. -/
theorem exists_served (data : Fixture) (services : Nat → Service) (settings : Settings)
    (bar : AddressBar) (hnames : NamesQuery bar.current) :
    ∃ c, data.controller services (.ofSettings settings) standardFields bar = .ok c ∧
      Served services data.search c ∧
      InFlight c 0 ((services 0).treatment (.ok (data.search c.query))).opening ∧
      Follows settings bar.current c ∧ c.currentPage = routedPage bar.current := by
  obtain ⟨filters, hfilters, hwired⟩ := standardFields_accepted settings
  have hcarries := (carriesQuery_iff settings _).2 hnames
  have hcan := (canSearch_arrived hfilters (.ofSettings settings)
    (.ofSource (served services data.search)) (.ofSource data.kindSource) bar).2 hcarries
  have hbeside := beginSearch_beside (arrived (.ofSettings settings) filters
    (.ofSource (served services data.search)) (.ofSource data.kindSource) bar)
  obtain ⟨hserved, hflight⟩ := served_started hfilters hwired (standardFields_heeded settings)
    hcarries
  refine ⟨started (.ofSettings settings) filters (.ofSource (served services data.search))
    (.ofSource data.kindSource) bar, create_eq_ok_iff.2 ⟨filters, hfilters, hwired, rfl⟩,
    hserved, hflight, ?_, ?_⟩
  · rw [started, if_pos hcan]
    exact (follows_arrived hfilters).pageApart hbeside.offered.pageApart
  · rw [started, if_pos hcan, currentPage, hbeside.filters, hbeside.wiring]
    exact arrived_currentPage hfilters

theorem openAddress_of_blank (data : Fixture) (services : Nat → Service) (settings : Settings)
    {query : String} (hblank : ¬ NamesQuery (routed query)) :
    openAddress data services settings query =
      .error (.search (.blankQuery [textField, categoryField])) := by
  obtain ⟨c, hcreate, hidle, hsubmit⟩ :=
    exists_idle data services settings (.ofUrl (addressOf query)) hblank
  have hturned : c.submit = (.error (.blankQuery [textField, categoryField]), c.submit.2) :=
    Prod.ext hsubmit rfl
  unfold openAddress
  simp only [hcreate]
  rw [hidle, if_neg Bool.false_ne_true, hturned]

theorem exists_openAddress (data : Fixture) (services : Nat → Service) (settings : Settings)
    {query : String} (hnames : NamesQuery (routed query)) :
    ∃ c, openAddress data services settings query = .ok c ∧
      Served services data.search c ∧
      InFlight c 0 ((services 0).treatment (.ok (data.search c.query))).opening ∧
      Follows settings (routed query) c ∧ c.currentPage = routedPage (routed query) := by
  obtain ⟨c, hcreate, hserved, hflight, hfollows, hpage⟩ :=
    exists_served data services settings (.ofUrl (addressOf query)) hnames
  have hsearching : c.isSearching = true := by
    rw [isSearching, hflight.flight]
    rfl
  refine ⟨c, ?_, hserved, hflight, hfollows, hpage⟩
  unfold openAddress
  simp only [hcreate]
  exact if_pos hsearching

/-! ## The command -/

theorem exists_finishedSearch (data : Fixture) (settings : Settings) {query : String}
    (hserved : ∀ number, (services number).InTime) (hnames : NamesQuery (routed query))
    (next previous : Nat) :
    ∃ c, finishedSearch data services settings query next previous = .ok c ∧
      Served services data.search c ∧ ShowsPage data.search c ∧
      Follows settings (routed query) c ∧
      c.currentPage = PageTurn.previous.target^[previous]
        (PageTurn.next.target^[next] (routedPage (routed query))) := by
  obtain ⟨c, hopened, hbegun, hflight, hfollows, hpage⟩ :=
    exists_openAddress data services settings hnames
  obtain ⟨d, hawait, hwaited, hshown, hkept, hstayed⟩ :=
    exists_awaitSearch hbegun (.inr ⟨0, hflight⟩) hserved
  obtain ⟨e, hnext, hforward, hshownNext, hapartNext, hpageNext⟩ :=
    exists_turnPages hserved .next next hwaited hshown
  obtain ⟨f, hprevious, hback, hshownLast, hapartLast, hpageLast⟩ :=
    exists_turnPages hserved .previous previous hforward hshownNext
  refine ⟨f, ?_, hback, hshownLast, ?_, ?_⟩
  · rw [finishedSearch, hopened]
    show awaitSearch data services c >>= _ = _
    rw [hawait]
    show turnPages data services .next next d >>= _ = _
    rw [hnext]
    exact hprevious
  · exact ((hfollows.pageApart hkept).pageApart hapartNext).pageApart hapartLast
  · rw [hpageLast, hpageNext, hstayed, hpage]

/-- The page shown in the end is the answer to the query of the parameters, for the
page of the parameters moved forward and back. -/
structure ShowsReference (data : Fixture) (settings : Settings) (params : Parameters)
    (next previous : Nat) (c : Controller Credential) (page : ResultPage Credential) : Prop where
  isSearching : c.isSearching = false
  lastError : c.lastError = none
  results : c.results = some page
  number : page.page.toNat = max 1 (min ((routedPage params).toNat + next) 4294967295 - previous)
  search : page = data.search (routedQuery settings params page.page)

theorem showsReference_of_served {next previous : Nat} (h : Served services data.search c)
    (hshows : ShowsPage data.search c) (hfollows : Follows settings params c)
    (hpage : c.currentPage = PageTurn.previous.target^[previous]
      (PageTurn.next.target^[next] (routedPage params))) :
    ShowsReference data settings params next previous c (data.search c.query) := by
  have hsame := hfollows.sameSearch h.sound h.canSearch
  have hnumber : (data.search c.query).page = c.currentPage :=
    hsame.page.trans (routedQuery_page settings params (Filters.one_le_page _ _))
  refine ⟨by rw [isSearching, hshows.flight]; rfl, hshows.lastError, hshows.results, ?_, ?_⟩
  · have hone : 1 ≤ PageTurn.next.target^[next] (routedPage params) :=
      PageTurn.next.one_le_iterate_target next (one_le_pageNumber _)
    rw [hnumber, hpage, PageTurn.iterate_previous_toNat previous hone,
      PageTurn.iterate_next_toNat]
  · rw [hnumber]
    exact data.search_congr hsame

theorem runCommand_search {around : Surroundings} {fixture : String}
    (hload : Fixture.load around.files fixture = .ok data) (settings : Settings)
    (settingsPath : Option String) (color : Bool) (query : String) (next previous : Nat)
    (json : Bool) :
    runCommand around settings ⟨.search query fixture next previous json, settingsPath, color⟩ =
      searchOutcome around data settings (showsColor around.environment color) query next previous
        json := by
  simp only [runCommand, hload]

/-- The search command fails without a fixture, and it fails if its argument names
neither a text nor a category. Otherwise it succeeds if every search is answered in time,
and what it prints is the page that the fixture has for the query of the argument. -/
theorem search_computes (around : Surroundings) (settings : Settings)
    (settingsPath : Option String) (color : Bool) (query fixture : String)
    (next previous : Nat) (json : Bool) (hserved : ∀ number, (around.services number).InTime) :
    (∃ e, Fixture.load around.files fixture = .error e ∧
      runCommand around settings ⟨.search query fixture next previous json, settingsPath, color⟩ =
        .failure "" (.storage e) around.files) ∨
    ∃ data, Fixture.load around.files fixture = .ok data ∧
      ((¬ NamesQuery (routed query) ∧
        runCommand around settings ⟨.search query fixture next previous json, settingsPath, color⟩ =
          .failure "" (.search (.blankQuery [textField, categoryField])) around.files) ∨
      (NamesQuery (routed query) ∧ ∃ c page,
        finishedSearch data around.services settings query next previous = .ok c ∧
        ShowsReference data settings (routed query) next previous c page ∧
        runCommand around settings ⟨.search query fixture next previous json, settingsPath, color⟩ =
          .success
            (if json then printDocument (searchDocument c page (elapsed around.services c))
              else Span.renderAll (showsColor around.environment color) (searchListing c page))
            "" around.files)) := by
  cases hload : Fixture.load around.files fixture with
  | error e =>
      refine .inl ⟨e, rfl, ?_⟩
      simp only [runCommand, hload]
  | ok data =>
      refine .inr ⟨data, rfl, ?_⟩
      rw [runCommand_search hload]
      unfold searchOutcome
      by_cases hnames : NamesQuery (routed query)
      · obtain ⟨c, hfinished, hended, hshown, hfollows, hpage⟩ :=
          exists_finishedSearch data settings hserved hnames next previous
        have hshows := showsReference_of_served hended hshown hfollows hpage
        refine .inr ⟨hnames, c, _, hfinished, hshows, ?_⟩
        rw [hfinished]
        dsimp only
        rw [hshows.lastError, hshows.results]
      · refine .inl ⟨hnames, ?_⟩
        rw [finishedSearch, openAddress_of_blank data around.services settings hnames]
        rfl

/-- Three records on pages of their own. -/
def threePages : Fixture :=
  ⟨[], [⟨1, "Acme Ltd", 4, 1, "Corporation", false⟩,
    ⟨2, "Acme Holdings", 4, 1, "Corporation", false⟩,
    ⟨3, "Acme Bakery", 5, 1, "Partnership", false⟩], .empty⟩

def threePagesText : String :=
  "[[],[[1,\"Acme Ltd\",4,1,\"Corporation\"],[2,\"Acme Holdings\",4,1,\"Corporation\"]," ++
    "[3,\"Acme Bakery\",5,1,\"Partnership\"]]]"

/-- A run that finds the three records in a file, and whose searches are answered at once, after
one look and after two. -/
def besideThreePages : Surroundings :=
  ⟨[], none, ⟨[(["r"], .file threePagesText.toUTF8)], []⟩, fun number => .after (number % 3) 0,
    fun _ => .made, none⟩

theorem load_threePages : Fixture.load besideThreePages.files "r" = .ok threePages :=
  Fixture.load_only (by decide +kernel)

/-- From the second page two forward and one back, with one record on each page. -/
theorem search_computes_late :
    (∀ number, (besideThreePages.services number).InTime) ∧
      ∃ c page, page.page = 3 ∧ page.data.map (·.id) = [3] ∧ page.total = 3 ∧
        runCommand besideThreePages { Settings.default with pageSize := 1 }
            ⟨.search "q=acme&page=2" "r" 2 1 false, none, false⟩ =
          .success (Span.renderAll false (searchListing c page)) "" besideThreePages.files := by
  have hserved : ∀ number, (besideThreePages.services number).InTime := by
    intro number
    exact Service.inTime_after (by omega) 0
  have hnames : NamesQuery (routed "q=acme&page=2") :=
    .inl ⟨"acme", by decide +kernel⟩
  have hpage : routedPage (routed "q=acme&page=2") = 2 := by decide +kernel
  refine ⟨hserved, ?_⟩
  rcases search_computes besideThreePages { Settings.default with pageSize := 1 } none false
      "q=acme&page=2" "r" 2 1 false hserved with
    ⟨e, herror, _⟩ | ⟨data, hload, ⟨hblank, _⟩ | ⟨_, c, page, _, hshows, hrun⟩⟩
  · rw [load_threePages] at herror
    cases herror
  · exact absurd hnames hblank
  · obtain rfl := Except.ok.inj (load_threePages.symm.trans hload)
    have hnumber : page.page = 3 := by
      refine UInt32.toNat_inj.1 (hshows.number.trans ?_)
      rw [hpage]
      rfl
    have hsearch := hshows.search
    rw [hnumber] at hsearch
    refine ⟨c, page, hnumber, ?_, ?_, hrun⟩
    · rw [hsearch]
      decide +kernel
    · rw [hsearch]
      decide +kernel

/-- If the time is up before the first page comes, the command fails and prints nothing. -/
theorem search_givesUp {around : Surroundings} {fixture query : String} {look : Nat}
    (hload : Fixture.load around.files fixture = .ok data) (hnames : NamesQuery (routed query))
    (hopen : look < (around.services 0).openLooks)
    (hlate : requestTimeout ≤ (around.services 0).waited look) (settings : Settings)
    (settingsPath : Option String) (color : Bool) (next previous : Nat) (json : Bool) :
    runCommand around settings ⟨.search query fixture next previous json, settingsPath, color⟩ =
      .failure "" .searchLate around.files := by
  obtain ⟨c, hopened, hbegun, hflight, _, _⟩ :=
    exists_openAddress data around.services settings hnames
  have hawait : awaitSearch data around.services c = .error .searchLate := by
    rw [awaitSearch, hbegun.await_of_late hflight hopen hlate]
  have hfinished : finishedSearch data around.services settings query next previous =
      .error .searchLate := by
    rw [finishedSearch, hopened]
    show awaitSearch data around.services c >>= _ = _
    rw [hawait]
    rfl
  rw [runCommand_search hload]
  unfold searchOutcome
  rw [hfinished]

end RecordSearch.CommandLine
