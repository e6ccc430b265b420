import RecordSearch.Proofs.Controller.ShownResults
import RecordSearch.Proofs.Controller.Ticks
import RecordSearch.Proofs.Paging

/-!
# What is asked of the backend, and when

All searches go through one gate: a search is begun only if one of the two
fields that make a query is off its default, and then it asks for the values of
that moment. So every query at the search desk holds a text or a category that
is neither blank nor the default.

When a search is begun differs from operation to operation. Each of them is
described by a condition on the state before it, on its answer and, for a tick,
on the refreshes asked for since the tick before; it begins one search if the
condition holds and none otherwise. An engaged controller stays engaged.
-/

namespace RecordSearch

/-- A query holds a value for one of the needed fields, neither blank nor its
default. -/
def Query.Asks (wiring : Wiring) (specs : List FieldSpec) (q : Query) : Prop :=
  ∃ name ∈ wiring.neededFields, ∃ spec ∈ specs, spec.hasKey name = true ∧
    ∃ v, q.get? spec.name = some v ∧ Text.normalize v = some v ∧ spec.defaultValue ≠ some v

/-- Parameters give one of the needed fields a value, neither blank nor its
default. -/
def CarriesQuery (wiring : Wiring) (specs : List FieldSpec) (params : Parameters) : Prop :=
  ∃ name ∈ wiring.neededFields, ∃ spec ∈ specs, spec.hasKey name = true ∧
    ∃ v, Text.normalize? (Filters.parameterFor params spec) = some v ∧
      spec.defaultValue ≠ some v

namespace Controller

variable {ι : Type} {b c d : Controller ι} {p q : Prop}

/-- A refresh is asked for by a handle that was given out. -/
def AsksRefresh (c : Controller ι) (action : Action ι) : Prop :=
  ∃ handle, action = .refresh handle ∧ (c.refresh handle).1 = some (.ok ())

/-- When an action begins a search, given whether a refresh was asked for since
the last tick. -/
def Begins (c : Controller ι) (refreshed : Prop) : Action ι → Prop
  | .submit => c.submit.1 = .ok ()
  | .turnPage turn => c.engaged = true ∧ (∃ page, (c.turnPage turn).1 = .ok page) ∧
      (c.turnPage turn).2.currentPage ≠ c.currentPage
  | .followAddress => c.followAddress.1 = .ok true ∧
      CarriesQuery c.wiring c.filters.specs c.addressBar.current
  | .poll => c.phase ≠ .disposed ∧ refreshed ∧ c.engaged = true ∧ c.canSearch = true
  | _ => False

/-- The searches of a controller are those of before and, if and only if
something holds, one more for its values, which make a query. -/
def Searched (p : Prop) (before : List Query) (c : Controller ι) : Prop :=
  (p ∧ c.canSearch = true ∧ c.searches.subjects = before ++ [c.query]) ∨
    (¬ p ∧ c.searches.subjects = before)

/-! ## The gate -/

theorem canSearch_iff : c.canSearch = true ↔
    ∃ name ∈ c.wiring.neededFields, ∃ field ∈ c.filters.fields, field.spec.hasKey name = true ∧
      ∃ v, field.value = some v ∧ field.spec.defaultValue ≠ some v := by
  simp only [canSearch, List.any_eq_true, Filters.isMoved_iff]

theorem asks_of_canSearch (hnormal : c.filters.Normal) (h : c.canSearch = true) :
    c.query.Asks c.wiring c.filters.specs := by
  obtain ⟨name, hname, field, hfield, hkey, v, hv, hdefault⟩ := canSearch_iff.1 h
  refine ⟨name, hname, field.spec, List.mem_map_of_mem hfield, hkey, v, ?_,
    hnormal field hfield v hv, hdefault⟩
  have heff : field.effective = some v := by
    rw [FieldState.effective, FieldSpec.effective, hv, Option.some_or]
  have hoff : field.atDefault = false := by
    rw [FieldState.atDefault, FieldSpec.isDefault, ← FieldState.effective, heff]
    simpa using hdefault.symm
  rw [Query.get?, query, Filters.get?_values hfield, FieldState.queryEntry, heff, hoff]
  simp

/-- Reading an address makes a query exactly if the address carries one. -/
theorem canSearch_read (hopen : c.filters.isClosed = false) :
    c.read.canSearch = true ↔ CarriesQuery c.wiring c.filters.specs c.addressBar.current := by
  have hfields : c.read.filters.fields = c.filters.fields.map
      (·.after (c.filters.assignmentsFrom c.addressBar.current)) :=
    Filters.readParameters_fields hopen c.addressBar.current .address
  rw [canSearch_iff, hfields, CarriesQuery, Filters.specs]
  constructor
  · rintro ⟨name, hname, _, hmem, hkey, v, hv, hdefault⟩
    obtain ⟨field, hfield, rfl⟩ := List.mem_map.1 hmem
    refine ⟨name, hname, field.spec, List.mem_map_of_mem hfield, hkey, v, ?_, hdefault⟩
    rw [← Filters.valueAfter_assignmentsFrom hfield]
    exact hv
  · rintro ⟨name, hname, _, hmem, hkey, v, hv, hdefault⟩
    obtain ⟨field, hfield, rfl⟩ := List.mem_map.1 hmem
    refine ⟨name, hname, _, List.mem_map_of_mem hfield, hkey, v, ?_, hdefault⟩
    rw [← Filters.valueAfter_assignmentsFrom hfield] at hv
    exact hv

/-! ## Moves and searches -/

/-- One controller leads to another by beginning one search, if something holds,
or none. It stays engaged, and has as many refreshes asked for. -/
structure Leads (p : Prop) (c d : Controller ι) : Prop where
  searched : Searched p c.searches.subjects d
  engaged : c.engaged = true → d.engaged = true
  refreshes : d.refreshes = c.refreshes

theorem Leads.congr (h : Leads p c d) (hpq : p ↔ q) : Leads q c d := by
  rwa [← propext hpq]

theorem leads_quietly (hp : ¬ p) (hsubjects : d.searches.subjects = c.searches.subjects)
    (hengaged : c.engaged = true → d.engaged = true) (hrefreshes : d.refreshes = c.refreshes) :
    Leads p c d :=
  ⟨.inr ⟨hp, hsubjects⟩, hengaged, hrefreshes⟩

theorem Leads.refl (hp : ¬ p) (c : Controller ι) : Leads p c c :=
  leads_quietly hp rfl id rfl

theorem Leads.after (h : Leads p c d) (hb : Leads False b c) : Leads p b d := by
  have hsubjects : c.searches.subjects = b.searches.subjects := by
    simpa [Searched] using hb.searched
  exact ⟨hsubjects ▸ h.searched, h.engaged ∘ hb.engaged, h.refreshes.trans hb.refreshes⟩

theorem Leads.before (h : Leads p b c) (hd : Leads False c d) (hoffered : Offered c d) :
    Leads p b d := by
  have hsubjects : d.searches.subjects = c.searches.subjects := by
    simpa [Searched] using hd.searched
  refine ⟨?_, hd.engaged ∘ h.engaged, hd.refreshes.trans h.refreshes⟩
  rw [Searched, hsubjects, hoffered.query, hoffered.canSearch]
  exact h.searched

theorem turnDown_leads (hp : ¬ p) (c : Controller ι) : Leads p c c.turnDown.2 :=
  leads_quietly hp rfl id rfl

theorem dropSearch_subjects (c : Controller ι) :
    c.dropSearch.searches.subjects = c.searches.subjects := by
  rw [dropSearch_searches]
  split
  · exact Desk.touch_subjects _ _ _
  · rfl

theorem dropSearch_leads (c : Controller ι) : Leads False c c.dropSearch := by
  refine leads_quietly id (dropSearch_subjects c) ?_ ?_
  · rw [dropSearch_engaged]
    exact id
  · rw [dropSearch_eq]

theorem beginSearch_leads (c : Controller ι) :
    Leads (c.canSearch = true) c c.beginSearch.2 := by
  cases hcan : c.canSearch with
  | true =>
      rw [beginSearch_of_canSearch hcan]
      refine ⟨.inl ⟨rfl, hcan, ?_⟩, id, rfl⟩
      exact (Desk.file_subjects _ _).trans (by rw [dropSearch_subjects]; rfl)
  | false =>
      rw [beginSearch_of_not_canSearch hcan]
      exact turnDown_leads (by simp) c

theorem beginSearch_fst : c.beginSearch.1 = .ok () ↔ c.canSearch = true := by
  cases hcan : c.canSearch with
  | true => simp [beginSearch_of_canSearch hcan]
  | false => simp [beginSearch_of_not_canSearch hcan]

/-! ## What the person does -/

theorem Sound.submit_leads (h : c.Sound) : Leads (c.submit.1 = .ok ()) c c.submit.2 := by
  rcases h.submit_cases with ⟨_, heq⟩ | ⟨_, _, heq⟩ | ⟨_, _, heq⟩
  · rw [heq]
    exact .refl (by simp) c
  · rw [heq]
    exact turnDown_leads (by simp) c
  · rw [heq]
    have hsubmitted : Leads False c c.submitted := leads_quietly id rfl (fun _ => rfl) rfl
    exact ((beginSearch_leads c.submitted).congr beginSearch_fst.symm).after hsubmitted

/-- A page turn leads to the page that it says. -/
theorem Sound.currentPage_paged (h : c.Sound) (hlive : c.phase ≠ .disposed) (turn : PageTurn) :
    (c.paged turn).currentPage = turn.target c.currentPage :=
  Filters.page_assign (h.isOpen hlive) h.page_known
    (turn.one_le_target (Filters.one_le_page _ _)) .pageTurn

theorem Sound.turnPage_leads (h : c.Sound) (turn : PageTurn) :
    Leads (c.engaged = true ∧ (∃ page, (c.turnPage turn).1 = .ok page) ∧
      (c.turnPage turn).2.currentPage ≠ c.currentPage) c (c.turnPage turn).2 := by
  have hpaged : Leads False c (c.paged turn) := leads_quietly id rfl id rfl
  rcases h.turnPage_cases turn with ⟨_, heq⟩ | ⟨_, _, heq⟩ |
    ⟨hlive, hmove, ⟨_, _, heq⟩ | ⟨hengaged, _, heq⟩ | ⟨hidle, heq⟩⟩
  · rw [heq]
    exact .refl (by simp) c
  · rw [heq]
    exact .refl (by simp) c
  · rw [heq]
    exact turnDown_leads (by simp) c
  · -- The page field may itself be what the search is for, so the search may still fail.
    rw [heq]
    refine ((beginSearch_leads (c.paged turn)).congr ?_).after hpaged
    have hbeside := beginSearch_beside (c.paged turn)
    have hpage : (c.paged turn).beginSearch.2.currentPage = turn.target c.currentPage := by
      rw [currentPage, hbeside.filters, hbeside.wiring, ← currentPage]
      exact h.currentPage_paged hlive turn
    cases hcan : (c.paged turn).canSearch with
    | true =>
        rw [beginSearch_fst.2 hcan, hpage]
        simp [hengaged, hmove, Except.map]
    | false => simp [beginSearch_of_not_canSearch hcan, Except.map]
  · rw [heq]
    refine hpaged.congr ?_
    simp [hidle]

theorem Sound.followAddress_leads (h : c.Sound) :
    Leads (c.followAddress.1 = .ok true ∧
      CarriesQuery c.wiring c.filters.specs c.addressBar.current) c c.followAddress.2 := by
  rcases h.followAddress_cases with ⟨_, heq⟩ | ⟨_, _, heq⟩ |
    ⟨hlive, _, ⟨hcan, heq⟩ | ⟨hcan, heq⟩⟩
  · rw [heq]
    exact .refl (by simp) c
  · rw [heq]
    exact leads_quietly (by simp) rfl id rfl
  · rw [← canSearch_read (h.isOpen hlive), heq]
    have hread : Leads False c { c.read with engaged := true } :=
      leads_quietly id rfl (fun _ => rfl) rfl
    refine ((beginSearch_leads _).congr ?_).after hread
    exact ⟨fun _ => ⟨rfl, hcan⟩, And.right⟩
  · rw [← canSearch_read (h.isOpen hlive), heq]
    have hdropped := (dropSearch_leads c.read).after (b := c) (leads_quietly id rfl id rfl)
    refine leads_quietly (by simp [hcan]) ?_ hdropped.engaged hdropped.refreshes
    exact dropSearch_subjects c.read

/-! ## A tick -/

theorem syncAddress_leads (c : Controller ι) : Leads False c c.syncAddress := by
  rw [syncAddress_eq]
  split
  · exact leads_quietly id rfl id rfl
  · exact leads_quietly id rfl id rfl

theorem collectChoices_leads (c : Controller ι) : Leads False c c.collectChoices := by
  rw [collectChoices_eq]
  exact leads_quietly id rfl id rfl

theorem showPage_leads (c : Controller ι) (page : ResultPage ι) :
    Leads False c (c.showPage page) :=
  have hdropped := dropSearch_leads c
  leads_quietly id (dropSearch_subjects c) hdropped.engaged hdropped.refreshes

theorem showFailure_leads (c : Controller ι) (error : SearchError) :
    Leads False c (c.showFailure error) :=
  have hdropped := dropSearch_leads c
  leads_quietly id (dropSearch_subjects c) hdropped.engaged hdropped.refreshes

theorem collectResults_leads (c : Controller ι) : Leads False c c.collectResults := by
  rw [collectResults]
  split
  · exact .refl id c
  · next flight _ =>
      have hpoll : Leads False c { c with searches := (c.searches.poll flight.number).2 } :=
        leads_quietly id (Desk.poll_subjects _ _) id rfl
      dsimp only
      split
      · exact hpoll
      · exact (showPage_leads _ _).after hpoll
      · exact (showFailure_leads _ _).after hpoll
      · exact (showFailure_leads _ _).after hpoll

/-- Refreshes are served by one search, however many they are. -/
theorem serveRefreshes_leads (c : Controller ι) :
    Leads (c.refreshes ≠ 0 ∧ c.engaged = true ∧ c.canSearch = true)
      { c with refreshes := 0 } c.serveRefreshes := by
  rw [serveRefreshes_eq]
  split
  · next hserves =>
      refine (beginSearch_leads _).congr ?_
      exact ⟨fun hcan => ⟨hserves.1, hserves.2, hcan⟩, fun h => h.2.2⟩
  · next hidle => exact .refl (fun hasked => hidle ⟨hasked.1, hasked.2.1⟩) _

theorem canSearch_syncAddress (c : Controller ι) : c.syncAddress.canSearch = c.canSearch := by
  rw [syncAddress_eq]
  split
  · rfl
  · rfl

theorem poll_leads (hlive : c.phase ≠ .disposed) :
    Leads (c.refreshes ≠ 0 ∧ c.engaged = true ∧ c.canSearch = true)
      { c with refreshes := 0 } c.poll := by
  have hsync := syncAddress_leads c
  have hstart : Leads False { c with refreshes := 0 } { c.syncAddress with refreshes := 0 } :=
    ⟨hsync.searched, hsync.engaged, rfl⟩
  have hserve := (serveRefreshes_leads c.syncAddress).after hstart
  rw [canSearch_syncAddress, hsync.refreshes, (syncAddress_alike c).engaged] at hserve
  rw [poll, if_neg hlive]
  exact (hserve.before (collectChoices_leads _) (collectChoices_offered _)).before
    (collectResults_leads _) (collectResults_offered _)

/-! ## A step -/

theorem dispose_subjects (c : Controller ι) :
    c.dispose.searches.subjects = c.searches.subjects := by
  rw [dispose]
  split
  · rfl
  · rw [dropPreload_eq]
    exact dropSearch_subjects c

theorem complete_leads (c : Controller ι) (number : Nat) (outcome : PageAnswer ι) :
    Leads False c (c.step (.complete number outcome)) := by
  refine leads_quietly id ?_ id rfl
  show (c.searches.complete number outcome).2.subjects = _
  rw [Desk.complete_eq_touch, Desk.touch_subjects]

theorem abandon_leads (c : Controller ι) (number : Nat) :
    Leads False c (c.step (.abandon number)) := by
  refine leads_quietly id ?_ id rfl
  show (c.searches.abandon number).2.subjects = _
  rw [Desk.abandon_eq_touch, Desk.touch_subjects]

/-- An action begins one search, for the values that it leaves, or none. -/
theorem Sound.searched_step (h : c.Sound) (action : Action ι) :
    Searched (Begins c (c.refreshes ≠ 0) action) c.searches.subjects (c.step action) := by
  cases action with
  | submit => exact h.submit_leads.searched
  | turnPage turn => exact (h.turnPage_leads turn).searched
  | followAddress => exact h.followAddress_leads.searched
  | poll =>
      by_cases hlive : c.phase = .disposed
      · rw [step_poll, poll_of_disposed hlive]
        exact .inr ⟨fun hbegins => hbegins.1 hlive, rfl⟩
      · simpa [Searched, Begins, hlive] using (poll_leads hlive).searched
  | takeHandle =>
      rw [step_takeHandle, takeHandle_eq]
      exact .inr ⟨id, rfl⟩
  | refresh handle =>
      rw [step_refresh, refresh_eq]
      exact .inr ⟨id, rfl⟩
  | complete number outcome => exact (complete_leads c number outcome).searched
  | abandon number => exact (abandon_leads c number).searched
  | dispose => exact .inr ⟨id, dispose_subjects c⟩
  | edit _ | visit _ | navigate _ | completePreload _ | abandonPreload => exact .inr ⟨id, rfl⟩

theorem Sound.engaged_step (h : c.Sound) (action : Action ι) (hengaged : c.engaged = true) :
    (c.step action).engaged = true := by
  cases action with
  | submit => exact h.submit_leads.engaged hengaged
  | turnPage turn => exact (h.turnPage_leads turn).engaged hengaged
  | followAddress => exact h.followAddress_leads.engaged hengaged
  | poll =>
      by_cases hlive : c.phase = .disposed
      · rwa [step_poll, poll_of_disposed hlive]
      · exact (poll_leads hlive).engaged hengaged
  | dispose => rwa [step_dispose, dispose_eq]
  | _ => rwa [step_eq_of_passesBy c rfl]

/-- What a step leaves of the refreshes asked for. -/
theorem Sound.refreshes_step (h : c.Sound) (action : Action ι)
    (hlive : (c.step action).phase ≠ .disposed) :
    (c.step action).refreshes ≠ 0 ↔
      AsksRefresh c action ∨ (action ≠ .poll ∧ c.refreshes ≠ 0) := by
  have hbefore := live_of_step hlive
  cases action with
  | submit => simp [AsksRefresh, h.submit_leads.refreshes]
  | turnPage turn => simp [AsksRefresh, (h.turnPage_leads turn).refreshes]
  | followAddress => simp [AsksRefresh, h.followAddress_leads.refreshes]
  | poll => simp [AsksRefresh, (poll_leads hbefore).refreshes]
  | takeHandle =>
      rw [step_takeHandle, takeHandle_eq]
      simp [AsksRefresh]
  | refresh handle =>
      by_cases hknown : handle < c.handles
      · simp [AsksRefresh, refresh, hknown, hbefore]
      · simp [AsksRefresh, refresh, hknown]
  | dispose => exact absurd (by rw [step_dispose, dispose_eq]) hlive
  | edit _ | visit _ | navigate _ | complete _ _ | abandon _ | completePreload _
  | abandonPreload => simp [AsksRefresh, Controller.step, perform]

/-! ## A run -/

theorem Sound.asks_step (h : c.Sound) (action : Action ι)
    (hasks : ∀ q ∈ c.searches.subjects, q.Asks c.wiring c.filters.specs) :
    ∀ q ∈ (c.step action).searches.subjects, q.Asks c.wiring c.filters.specs := by
  intro q hq
  have hcontinues := h.step_continues action
  rcases h.searched_step action with ⟨_, hcan, hsubjects⟩ | ⟨_, hsubjects⟩
  · rw [hsubjects] at hq
    rcases List.mem_append.1 hq with hold | hnew
    · exact hasks q hold
    · obtain rfl := List.mem_singleton.1 hnew
      rw [← hcontinues.wiring, ← hcontinues.specs]
      exact asks_of_canSearch (h.step action).normal hcan
  · exact hasks q (hsubjects ▸ hq)

theorem Sound.asks_run (h : c.Sound)
    (hasks : ∀ q ∈ c.searches.subjects, q.Asks c.wiring c.filters.specs)
    (actions : List (Action ι)) :
    ∀ q ∈ (c.run actions).searches.subjects, q.Asks c.wiring c.filters.specs := by
  induction actions generalizing c with
  | nil => exact hasks
  | cons action rest ih =>
      have hcontinues := h.step_continues action
      rw [← hcontinues.wiring, ← hcontinues.specs]
      refine ih (h.step action) ?_
      rw [hcontinues.wiring, hcontinues.specs]
      exact h.asks_step action hasks

theorem Sound.engaged_run (h : c.Sound) (hengaged : c.engaged = true)
    (actions : List (Action ι)) : (c.run actions).engaged = true := by
  induction actions generalizing c with
  | nil => exact hengaged
  | cons action rest ih => exact ih (h.step action) (h.engaged_step action hengaged)

section Run

variable {wiring : Wiring} {specs : List FieldSpec}
  {source : Nat → Query → Treatment (PageAnswer ι)}
  {preloadSource : Nat → Query → Treatment (PageAnswer Choice)} {bar : AddressBar}

/-- A controller that arrives can search if its address carries a query. -/
theorem canSearch_arrived {filters : Filters} (hfilters : Filters.ofSpecs specs = .ok filters)
    (wiring : Wiring) (searches : Desk Query (PageAnswer ι))
    (preloads : Desk Query (PageAnswer Choice)) (bar : AddressBar) :
    (arrived wiring filters searches preloads bar).canSearch = true ↔
      CarriesQuery wiring specs bar.current := by
  have hdeclared : filters.specs = specs := Filters.ofSpecs_specs hfilters
  have hspecs : (blank wiring filters searches preloads bar).startPreload.filters.specs = specs :=
    hdeclared
  rw [← hspecs]
  exact canSearch_read (blank_isClosed hfilters wiring searches preloads bar)

/-- A controller that is built begins a search if its address carries a query. -/
theorem searched_of_create
    (h : create wiring specs (.ofSource source) (.ofSource preloadSource) bar = .ok c) :
    Searched (CarriesQuery wiring specs bar.current) [] c ∧ c.refreshes = 0 := by
  obtain ⟨filters, hfilters, _, rfl⟩ := create_eq_ok_iff.1 h
  have hgate := canSearch_arrived hfilters wiring (.ofSource source) (.ofSource preloadSource) bar
  rw [started]
  split
  · next hcan =>
      have hbegun := (beginSearch_leads _).congr hgate
      exact ⟨hbegun.searched, hbegun.refreshes⟩
  · next hcan => exact ⟨.inr ⟨fun hcarries => hcan (hgate.2 hcarries), rfl⟩, rfl⟩

theorem refreshes_iff_sinceTick
    (h : create wiring specs (.ofSource source) (.ofSource preloadSource) bar = .ok c)
    {actions : List (Action ι)} (hlive : (c.run actions).phase ≠ .disposed) :
    (c.run actions).refreshes ≠ 0 ↔ SinceTick AsksRefresh c actions :=
  kept_iff_sinceTick (fun c => c.refreshes ≠ 0)
    (fun _ action hsound => hsound.refreshes_step action) (sound_of_create h)
    (by simp [(searched_of_create h).2]) actions hlive

/-- Whether an action begins a search can be told from the run. -/
theorem begins_iff_sinceTick
    (h : create wiring specs (.ofSource source) (.ofSource preloadSource) bar = .ok c)
    (actions : List (Action ι)) (action : Action ι) :
    Begins (c.run actions) ((c.run actions).refreshes ≠ 0) action ↔
      Begins (c.run actions) (SinceTick AsksRefresh c actions) action := by
  cases action with
  | poll =>
      refine and_congr_right fun hlive => ?_
      rw [refreshes_iff_sinceTick h hlive]
  | _ => rfl

theorem asks_of_create
    (h : create wiring specs (.ofSource source) (.ofSource preloadSource) bar = .ok c)
    (actions : List (Action ι)) :
    ∀ q ∈ (c.run actions).searches.subjects, q.Asks wiring specs := by
  have hsound := sound_of_create h
  obtain ⟨hwiring, hspecs⟩ : c.wiring = wiring ∧ c.filters.specs = specs :=
    declarations_of_create h []
  rw [← hwiring, ← hspecs]
  refine hsound.asks_run (fun q hq => ?_) actions
  rcases (searched_of_create h).1 with ⟨_, hcan, hsubjects⟩ | ⟨_, hsubjects⟩
  · rw [hsubjects, List.nil_append] at hq
    obtain rfl := List.mem_singleton.1 hq
    exact asks_of_canSearch hsound.normal hcan
  · rw [hsubjects] at hq
    cases hq

/-- A controller begins a search when it is built if its address carries a query,
and from then on with each action that has what it takes, one at a time. Every
search asks for something, writing to the bar begins none, and an engaged
controller stays engaged. -/
theorem searches_gated
    (hcreate : create wiring specs (.ofSource source) (.ofSource preloadSource) bar = .ok c) :
    Searched (CarriesQuery wiring specs bar.current) [] c ∧
    ∀ actions : List (Action ι),
      (∀ q ∈ (c.run actions).searches.subjects, q.Asks wiring specs) ∧
      (∀ action, Searched (Begins (c.run actions) (SinceTick AsksRefresh c actions) action)
        (c.run actions).searches.subjects (c.run (actions ++ [action]))) ∧
      (c.run actions).syncAddress.searches = (c.run actions).searches ∧
      ((c.run actions).engaged = true →
        ∀ later, (c.run (actions ++ later)).engaged = true) := by
  refine ⟨(searched_of_create hcreate).1, fun actions => ?_⟩
  have hsound := (sound_of_create hcreate).run actions
  refine ⟨asks_of_create hcreate actions, fun action => ?_, (syncAddress_alike _).searches,
    fun hengaged later => ?_⟩
  · rw [run_concat, ← propext (begins_iff_sinceTick hcreate actions action)]
    exact hsound.searched_step action
  · rw [run_append]
    exact hsound.engaged_run hengaged later

end Run

/-- Two refreshes that are asked for while the page is turned. -/
def hurried : List (Action Unit) :=
  [.takeHandle, .refresh 0, .turnPage .next, .refresh 0]

/-- They are served by one search. -/
theorem searches_gated_of_hurried :
    ∃ c : Controller Unit,
      create .default standardFields (.ofSource fun _ _ => .hold) (.ofSource fun _ _ => .hold)
        (.ofUrl "/search?q=a") = .ok c ∧
      Begins (c.run hurried) (SinceTick AsksRefresh c hurried) .poll ∧
      (c.run (hurried ++ [.poll])).searches.subjects =
        (c.run hurried).searches.subjects ++ [(c.run (hurried ++ [.poll])).query] ∧
      ∀ q ∈ (c.run (hurried ++ [.poll])).searches.subjects, q.Asks .default standardFields := by
  obtain ⟨c, hcreate, hcheck⟩ := exists_ok_of_check
    (create .default standardFields (.ofSource fun _ _ => .hold)
      (.ofSource fun _ _ => .hold) (.ofUrl "/search?q=a"))
    (fun c : Controller Unit =>
      decide ((c.run hurried).phase ≠ .disposed ∧ (c.run hurried).engaged = true ∧
        (c.run hurried).canSearch = true ∧
        0 < (c.run [.takeHandle, .refresh 0, .turnPage .next]).handles ∧
        (c.run [.takeHandle, .refresh 0, .turnPage .next]).phase ≠ .disposed))
    (by decide +kernel)
  obtain ⟨hlive, hengaged, hcan, hknown, hlive'⟩ := of_decide_eq_true hcheck
  have hgated := (searches_gated hcreate).2
  have hasked : SinceTick AsksRefresh c hurried := by
    refine ⟨[.takeHandle, .refresh 0, .turnPage .next], .refresh 0, [], rfl, by simp, 0, rfl, ?_⟩
    rw [refresh, if_pos hknown, if_neg hlive']
  have hbegins : Begins (c.run hurried) (SinceTick AsksRefresh c hurried) .poll :=
    ⟨hlive, hasked, hengaged, hcan⟩
  refine ⟨c, hcreate, hbegins, ?_, (hgated _).1⟩
  rcases (hgated hurried).2.1 .poll with ⟨_, _, hsubjects⟩ | ⟨hnot, _⟩
  · exact hsubjects
  · exact absurd hbegins hnot

end Controller

end RecordSearch
