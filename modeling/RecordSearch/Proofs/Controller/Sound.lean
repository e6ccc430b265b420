import RecordSearch.Proofs.Controller.Operations

/-!
# What holds in every state

A controller is built from declarations that fit its wiring, and from then on
the declarations never change. It is the one subscriber of its filters. The
values in the filters are trimmed, and so are the texts in the form, except
where the form shows a default, which is shown as it was declared. And as long
as the controller lives, its filters are open, so none of its assignments can
be refused.

`Sound` says all this of one state. It holds where a controller begins and is
kept by every action, hence it holds in every state that can be reached.
-/

namespace RecordSearch

/-! ## How filters and forms change -/

namespace Filters

/-- The second filters came from the first by changes of values and choices. -/
structure Evolves (fs gs : Filters) : Prop where
  specs : gs.specs = fs.specs
  isClosed : gs.isClosed = fs.isClosed
  normal : fs.Normal → gs.Normal
  subscribed : (∃ queue, fs.valueFeed.queues = [some queue]) →
    ∃ queue, gs.valueFeed.queues = [some queue]

theorem Evolves.refl (fs : Filters) : Evolves fs fs := ⟨rfl, rfl, id, id⟩

theorem assign_evolves (fs : Filters) (changes : Assignments) (source : Provenance) :
    Evolves fs (fs.assign changes source).2 := by
  refine ⟨assign_specs fs changes source, assign_isClosed fs changes source,
    fun h => assign_normal h changes source, ?_⟩
  rintro ⟨queue, hqueue⟩
  rw [assign_valueFeed]
  split
  · refine ⟨queue ++ [⟨(fs.assign changes source).2.values, source⟩], ?_⟩
    rw [Feed.publish, hqueue]
    rfl
  · exact ⟨queue, hqueue⟩

theorem evolves_of_slots {fs gs : Filters} (hslots : gs.slots = fs.slots)
    (hfeed : gs.valueFeed = fs.valueFeed) : Evolves fs gs := by
  refine ⟨?_, ?_, fun h => ?_, ?_⟩
  · rw [specs_eq_map_slots, specs_eq_map_slots, hslots]
  · rw [Filters.isClosed, Filters.isClosed, hfeed]
  · rw [normal_iff_slots, hslots]
    exact normal_iff_slots.1 h
  · rw [hfeed]
    exact id

/-- The texts in a form are trimmed, but for defaults that it shows. -/
def Fits (fs : Filters) (form : Form) : Prop :=
  ∀ name v, form.get? name = some v → Text.normalize v = some v ∨
    ∃ spec ∈ fs.visibleSpecs, spec.name = name ∧ spec.defaultValue = some v

theorem Fits.congr {fs gs : Filters} {form form' : Form} (h : fs.Fits form)
    (hspecs : gs.specs = fs.specs) (hcontrols : form'.controls = form.controls) :
    gs.Fits form' := by
  intro name v hv
  rw [Form.get?, hcontrols] at hv
  rw [visibleSpecs, hspecs]
  exact h name v hv

theorem Fits.set {fs : Filters} {form : Form} (h : fs.Fits form) (field : String)
    (value : Option String) : fs.Fits (form.set field value) := by
  intro name v hv
  rw [Form.set] at hv
  split at hv
  · next text htext =>
      rw [Form.get?, KeyMap.get?_insert] at hv
      split at hv
      · cases hv
        exact .inl (Text.normalize?_of_eq_some htext)
      · exact h name v hv
  · rw [Form.get?, KeyMap.get?_erase] at hv
    split at hv
    · cases hv
    · exact h name v hv

theorem Fits.edit {fs : Filters} {form : Form} (h : fs.Fits form) (edit : Form.Edit) :
    fs.Fits (form.edit edit) := by
  cases edit with
  | control field value => exact h.set field value
  | text text => exact h.set textField (some text)
  | inactive state => exact h.set inactiveField (some state.keyword)
  | untouch => exact h.congr rfl rfl

theorem fits_refill {fs : Filters} (hnormal : fs.Normal) (form : Form) :
    fs.Fits (form.refill fs) := by
  intro name v hv
  obtain ⟨field, hfield, rfl, hvisible, heff⟩ := Form.shown_of_get?_refill hv
  rw [FieldState.effective, FieldSpec.effective] at heff
  cases hvalue : field.value with
  | some text =>
      rw [hvalue, Option.some_or] at heff
      cases heff
      exact .inl (hnormal field hfield v hvalue)
  | none =>
      rw [hvalue, Option.none_or] at heff
      exact .inr ⟨field.spec, (mem_visibleSpecs hfield).2 hvisible, rfl, heff⟩

end Filters

namespace Controller

variable {ι : Type}

/-! ## Where a controller begins -/

/-- A controller that has read its first address, before any search. -/
def arrived (wiring : Wiring) (filters : Filters)
    (searches : Desk Query (PageAnswer ι)) (preloads : Desk Query (PageAnswer Choice))
    (bar : AddressBar) : Controller ι :=
  let c := (blank wiring filters searches preloads bar).startPreload.read
  { c with engaged := c.showsFilter, phase := .ready }

theorem readAddress_eq {c : Controller ι} (hopen : c.filters.isClosed = false) :
    ∃ changed, c.readAddress = (.ok changed, c.read) := by
  have hok := Filters.readParameters_fst hopen c.addressBar.current .address
  rw [readAddress]
  split
  · next changed fs heq => exact ⟨changed, by rw [read, heq]⟩
  · next e fs heq =>
      rw [heq] at hok
      cases hok

theorem blank_isClosed {specs : List FieldSpec} {filters : Filters}
    (h : Filters.ofSpecs specs = .ok filters) (wiring : Wiring)
    (searches : Desk Query (PageAnswer ι)) (preloads : Desk Query (PageAnswer Choice))
    (bar : AddressBar) :
    (blank wiring filters searches preloads bar).startPreload.filters.isClosed = false := by
  show filters.isClosed = false
  exact Filters.ofSpecs_isClosed h

/-- A controller that has just been built: it searches at once if its address
lets it. -/
def started (wiring : Wiring) (filters : Filters)
    (searches : Desk Query (PageAnswer ι)) (preloads : Desk Query (PageAnswer Choice))
    (bar : AddressBar) : Controller ι :=
  let c := arrived wiring filters searches preloads bar
  if c.canSearch then c.beginSearch.2 else c

theorem launch_of_missing {c : Controller ι} {name : String}
    (h : c.wiring.wiredFields.find? (fun name => !c.filters.contains name) = some name) :
    c.launch = (.error (.unknownField name), c) := by
  rw [launch, h]

theorem launch_of_wired {specs : List FieldSpec} {filters : Filters}
    (hfilters : Filters.ofSpecs specs = .ok filters) {wiring : Wiring}
    (hwired : wiring.wiredFields.find? (fun name => !filters.contains name) = none)
    (searches : Desk Query (PageAnswer ι)) (preloads : Desk Query (PageAnswer Choice))
    (bar : AddressBar) :
    (blank wiring filters searches preloads bar).launch =
      (.ok (), started wiring filters searches preloads bar) := by
  obtain ⟨changed, hread⟩ :=
    readAddress_eq (blank_isClosed hfilters wiring searches preloads bar)
  have hfind : (blank wiring filters searches preloads bar).wiring.wiredFields.find?
      (fun name => !(blank wiring filters searches preloads bar).filters.contains name) =
        none := hwired
  rw [launch, hfind]
  dsimp only
  rw [hread]
  dsimp only
  rw [← arrived, started]
  split
  · next hcan => rw [beginSearch_of_canSearch hcan]
  · rfl

/-- A controller can be built exactly if no key is declared twice and every
part is given to a field. -/
theorem create_eq_ok_iff {wiring : Wiring} {specs : List FieldSpec}
    {searches : Desk Query (PageAnswer ι)} {preloads : Desk Query (PageAnswer Choice)}
    {bar : AddressBar} {c : Controller ι} :
    create wiring specs searches preloads bar = .ok c ↔
      ∃ filters, Filters.ofSpecs specs = .ok filters ∧
        (∀ name ∈ wiring.wiredFields, filters.contains name = true) ∧
        c = started wiring filters searches preloads bar := by
  rw [create]
  split
  · next e he =>
      rw [he]
      constructor
      · intro h
        cases h
      · rintro ⟨filters, hfilters, _⟩
        cases hfilters
  · next filters hfilters =>
      have hwired : (∀ name ∈ wiring.wiredFields, filters.contains name = true) ↔
          wiring.wiredFields.find? (fun name => !filters.contains name) = none := by
        rw [List.find?_eq_none]
        simp
      rw [hfilters]
      cases hfind : wiring.wiredFields.find? fun name => !filters.contains name with
      | some name =>
          rw [launch_of_missing hfind]
          constructor
          · intro h
            cases h
          · rintro ⟨fs, hfs, hall, _⟩
            cases hfs
            rw [hwired.1 hall] at hfind
            cases hfind
      | none =>
          rw [launch_of_wired hfilters hfind]
          constructor
          · intro h
            cases h
            exact ⟨filters, rfl, hwired.2 hfind, rfl⟩
          · rintro ⟨fs, hfs, _, rfl⟩
            cases hfs
            rfl

/-- When it has been built, a controller has done nothing but arrive and search. -/
theorem arrived_beside_of_create {wiring : Wiring} {specs : List FieldSpec}
    {searches : Desk Query (PageAnswer ι)} {preloads : Desk Query (PageAnswer Choice)}
    {bar : AddressBar} {c : Controller ι}
    (h : create wiring specs searches preloads bar = .ok c) :
    ∃ filters, Filters.ofSpecs specs = .ok filters ∧
      (∀ name ∈ wiring.wiredFields, filters.contains name = true) ∧
      Beside (arrived wiring filters searches preloads bar) c := by
  obtain ⟨filters, hfilters, hwired, rfl⟩ := create_eq_ok_iff.1 h
  refine ⟨filters, hfilters, hwired, ?_⟩
  rw [started]
  split
  · exact beginSearch_beside _
  · exact .refl _

/-! ## Soundness -/

theorem needed_wired {wiring : Wiring} {name : String} (h : name ∈ wiring.neededFields) :
    name ∈ wiring.wiredFields := by
  simp only [Wiring.neededFields, Wiring.wiredFields, List.mem_cons] at h ⊢
  tauto

structure Sound (c : Controller ι) : Prop where
  /-- Every part is given to a field. -/
  wired : ∀ name ∈ c.wiring.wiredFields, c.filters.contains name = true
  subscribed : ∃ queue, c.filters.valueFeed.queues = [some queue]
  normal : c.filters.Normal
  fits : c.filters.Fits c.form
  isOpen : c.phase ≠ .disposed → c.filters.isClosed = false

theorem Sound.page_known {c : Controller ι} (h : c.Sound) :
    c.filters.contains c.wiring.pageField = true :=
  h.wired _ (by simp [Wiring.wiredFields])

/-! What the operations that can be refused come to, all cases together. -/

theorem Sound.submit_cases {c : Controller ι} (h : c.Sound) :
    (c.phase = .disposed ∧ c.submit = (.error .disposed, c)) ∨
    (c.phase ≠ .disposed ∧ c.isFilled = false ∧
      c.submit = (.error (.blankQuery c.wiring.neededFields), c.turnDown.2)) ∨
    (c.phase ≠ .disposed ∧ c.isFilled = true ∧ c.submit = c.submitted.beginSearch) := by
  by_cases hlive : c.phase = .disposed
  · exact .inl ⟨hlive, whenLive_of_disposed hlive _⟩
  · cases hfilled : c.isFilled with
    | false => exact .inr (.inl ⟨hlive, rfl, submit_of_blank hlive hfilled⟩)
    | true =>
        exact .inr (.inr ⟨hlive, rfl,
          submit_of_filled hlive (h.isOpen hlive) h.page_known hfilled⟩)

theorem Sound.turnPage_cases {c : Controller ι} (h : c.Sound) (turn : PageTurn) :
    (c.phase = .disposed ∧ c.turnPage turn = (.error .disposed, c)) ∨
    (c.phase ≠ .disposed ∧ turn.target c.currentPage = c.currentPage ∧
      c.turnPage turn = (.ok c.currentPage, c)) ∨
    (c.phase ≠ .disposed ∧ turn.target c.currentPage ≠ c.currentPage ∧
      ((c.engaged = true ∧ c.canSearch = false ∧
          c.turnPage turn = (.error (.blankQuery c.wiring.neededFields), c.turnDown.2)) ∨
        (c.engaged = true ∧ c.canSearch = true ∧
          c.turnPage turn = ((c.paged turn).beginSearch.1.map fun _ => turn.target c.currentPage,
            (c.paged turn).beginSearch.2)) ∨
        (c.engaged = false ∧
          c.turnPage turn = (.ok (turn.target c.currentPage), c.paged turn)))) := by
  by_cases hlive : c.phase = .disposed
  · exact .inl ⟨hlive, whenLive_of_disposed hlive _⟩
  · by_cases hmove : turn.target c.currentPage = c.currentPage
    · exact .inr (.inl ⟨hlive, hmove, turnPage_at_end hlive hmove⟩)
    · refine .inr (.inr ⟨hlive, hmove, ?_⟩)
      have hopen := h.isOpen hlive
      cases hengaged : c.engaged with
      | false =>
          exact .inr (.inr ⟨rfl, turnPage_of_idle hlive hopen h.page_known hmove hengaged⟩)
      | true =>
          cases hcan : c.canSearch with
          | false => exact .inl ⟨rfl, rfl, turnPage_of_blank hlive hmove hengaged hcan⟩
          | true =>
              exact .inr (.inl ⟨rfl, rfl,
                turnPage_of_engaged hlive hopen h.page_known hmove hengaged hcan⟩)

theorem Sound.followAddress_cases {c : Controller ι} (h : c.Sound) :
    (c.phase = .disposed ∧ c.followAddress = (.error .disposed, c)) ∨
    (c.phase ≠ .disposed ∧ c.filters.reading c.addressBar.current = c.filters.effectives ∧
      c.followAddress = (.ok false, { c with
        filters := (c.filters.readParameters c.addressBar.current .address).2 })) ∨
    (c.phase ≠ .disposed ∧ c.filters.reading c.addressBar.current ≠ c.filters.effectives ∧
      ((c.read.canSearch = true ∧ c.followAddress =
          (.ok true, ({ c.read with engaged := true } : Controller ι).beginSearch.2)) ∨
        (c.read.canSearch = false ∧ c.followAddress = (.ok true,
          { c.read.dropSearch with results := none, lastError := none, phase := .ready })))) := by
  by_cases hlive : c.phase = .disposed
  · exact .inl ⟨hlive, whenLive_of_disposed hlive _⟩
  · have hopen := h.isOpen hlive
    by_cases hsame : c.filters.reading c.addressBar.current = c.filters.effectives
    · exact .inr (.inl ⟨hlive, hsame, followAddress_of_same hlive hopen hsame⟩)
    · refine .inr (.inr ⟨hlive, hsame, ?_⟩)
      rw [followAddress_of_differs hlive hopen hsame]
      cases hcan : c.read.canSearch with
      | true => exact .inl ⟨rfl, rfl⟩
      | false => exact .inr ⟨rfl, rfl⟩

/-- What one controller carries over to the next. -/
structure Continues (c d : Controller ι) : Prop where
  wiring : d.wiring = c.wiring
  specs : d.filters.specs = c.filters.specs
  subscribed : (∃ queue, c.filters.valueFeed.queues = [some queue]) →
    ∃ queue, d.filters.valueFeed.queues = [some queue]
  normal : c.filters.Normal → d.filters.Normal
  fits : c.filters.Normal → c.filters.Fits c.form → d.filters.Fits d.form
  isOpen : d.phase ≠ .disposed →
    c.phase ≠ .disposed ∧ d.filters.isClosed = c.filters.isClosed

theorem Sound.continue {c d : Controller ι} (h : c.Sound) (hd : Continues c d) : d.Sound := by
  refine ⟨?_, hd.subscribed h.subscribed, hd.normal h.normal, hd.fits h.normal h.fits, ?_⟩
  · intro name hname
    rw [Filters.contains_eq_of_specs hd.specs]
    exact h.wired name (hd.wiring ▸ hname)
  · intro hlive
    rw [(hd.isOpen hlive).2]
    exact h.isOpen (hd.isOpen hlive).1

theorem Continues.refl (c : Controller ι) : Continues c c :=
  ⟨rfl, rfl, id, id, fun _ => id, fun hlive => ⟨hlive, rfl⟩⟩

theorem Continues.trans {c d e : Controller ι} (h : Continues c d) (h' : Continues d e) :
    Continues c e := by
  refine ⟨h'.wiring.trans h.wiring, h'.specs.trans h.specs, h'.subscribed ∘ h.subscribed,
    h'.normal ∘ h.normal, fun hnormal hfits => ?_, fun hlive => ?_⟩
  · exact h'.fits (h.normal hnormal) (h.fits hnormal hfits)
  · obtain ⟨hbetween, hclosed⟩ := h'.isOpen hlive
    obtain ⟨hbefore, hclosed'⟩ := h.isOpen hbetween
    exact ⟨hbefore, hclosed.trans hclosed'⟩

theorem continues_of_evolves {c d : Controller ι} (hwiring : d.wiring = c.wiring)
    (hfilters : c.filters.Evolves d.filters)
    (hfits : c.filters.Normal → c.filters.Fits c.form → d.filters.Fits d.form)
    (hlive : d.phase ≠ .disposed → c.phase ≠ .disposed) : Continues c d :=
  ⟨hwiring, hfilters.specs, hfilters.subscribed, hfilters.normal, hfits,
    fun h => ⟨hlive h, hfilters.isClosed⟩⟩

theorem Offered.continues {c d : Controller ι} (h : Offered c d)
    (hlive : d.phase ≠ .disposed → c.phase ≠ .disposed) : Continues c d := by
  have hevolves := Filters.evolves_of_slots h.slots h.valueFeed
  exact continues_of_evolves h.wiring hevolves
    (fun _ hfits => hfits.congr hevolves.specs h.controls) hlive

theorem Beside.continues {c d : Controller ι} (h : Beside c d)
    (hlive : d.phase ≠ .disposed → c.phase ≠ .disposed) : Continues c d :=
  h.offered.continues hlive

/-! ## A step -/

theorem read_continues (c : Controller ι) : Continues c c.read :=
  have hevolves := Filters.assign_evolves c.filters
    (c.filters.assignmentsFrom c.addressBar.current) .address
  continues_of_evolves rfl hevolves
    (fun hnormal _ => Filters.fits_refill (hevolves.normal hnormal) c.form) id

theorem submitted_continues (c : Controller ι) : Continues c c.submitted :=
  have hevolves := Filters.assign_evolves c.filters c.submission .user
  continues_of_evolves rfl hevolves (fun _ hfits => hfits.congr hevolves.specs rfl) id

theorem paged_continues (c : Controller ι) (turn : PageTurn) : Continues c (c.paged turn) :=
  have hevolves := Filters.assign_evolves c.filters _ .pageTurn
  continues_of_evolves rfl hevolves (fun _ hfits => hfits.congr hevolves.specs rfl) id

theorem Sound.submit_continues {c : Controller ι} (h : c.Sound) :
    Continues c c.submit.2 := by
  rcases h.submit_cases with ⟨_, heq⟩ | ⟨hlive, _, heq⟩ | ⟨hlive, _, heq⟩
  · rw [heq]
    exact .refl c
  · rw [heq]
    exact (turnDown_beside c).continues fun _ => hlive
  · rw [heq]
    exact (submitted_continues c).trans ((beginSearch_beside _).continues fun _ => hlive)

theorem Sound.turnPage_continues {c : Controller ι} (h : c.Sound) (turn : PageTurn) :
    Continues c (c.turnPage turn).2 := by
  rcases h.turnPage_cases turn with ⟨_, heq⟩ | ⟨_, _, heq⟩ |
    ⟨hlive, _, ⟨_, _, heq⟩ | ⟨_, _, heq⟩ | ⟨_, heq⟩⟩
  · rw [heq]
    exact .refl c
  · rw [heq]
    exact .refl c
  · rw [heq]
    exact (turnDown_beside c).continues fun _ => hlive
  · rw [heq]
    exact (paged_continues c turn).trans ((beginSearch_beside _).continues fun _ => hlive)
  · rw [heq]
    exact paged_continues c turn

theorem Sound.followAddress_continues {c : Controller ι} (h : c.Sound) :
    Continues c c.followAddress.2 := by
  rcases h.followAddress_cases with ⟨_, heq⟩ | ⟨_, _, heq⟩ | ⟨hlive, hdiffers, _⟩
  · rw [heq]
    exact .refl c
  · -- A field that was unset may now be set to its default, so the filters still evolve.
    rw [heq]
    have hevolves := Filters.assign_evolves c.filters
      (c.filters.assignmentsFrom c.addressBar.current) .address
    exact continues_of_evolves rfl hevolves
      (fun _ hfits => hfits.congr hevolves.specs rfl) id
  · have hbeside := followAddress_beside_read hlive (h.isOpen hlive) hdiffers
    exact (read_continues c).trans (hbeside.continues fun _ => hlive)

theorem syncAddress_continues (c : Controller ι) : Continues c c.syncAddress := by
  have hevolves : c.filters.Evolves c.drained := by
    refine ⟨rfl, rfl, id, ?_⟩
    rintro ⟨queue, hqueue⟩
    refine ⟨queue.drop (c.filters.valueFeed.waiting ownSubscription).length, ?_⟩
    rw [drained, Feed.drain]
    dsimp only
    rw [Feed.advance, hqueue]
    rfl
  rw [syncAddress_eq]
  split
  · exact continues_of_evolves rfl hevolves (fun _ hfits => hfits.congr rfl rfl) id
  · exact continues_of_evolves rfl hevolves (fun _ hfits => hfits.congr rfl rfl) id

theorem poll_continues (c : Controller ι) : Continues c c.poll := by
  by_cases hlive : c.phase = .disposed
  · rw [poll_of_disposed hlive]
    exact .refl c
  · refine (syncAddress_continues c).trans ((poll_offered hlive).continues fun _ => ?_)
    rw [syncAddress_eq]
    split
    · exact hlive
    · exact hlive

theorem dispose_continues (c : Controller ι) : Continues c c.dispose := by
  rw [dispose]
  split
  · exact .refl c
  · have hdrop : Beside c c.dropSearch.dropPreload :=
      (dropSearch_beside c).trans (dropPreload_beside _)
    have hcontinues := hdrop.continues (fun _ => ‹c.phase ≠ .disposed›)
    exact ⟨hcontinues.wiring, hcontinues.specs, hcontinues.subscribed, hcontinues.normal,
      hcontinues.fits, fun hne => absurd rfl hne⟩

/-- Every action leads to a controller that continues the one before. -/
theorem Sound.step_continues {c : Controller ι} (h : c.Sound) (action : Action ι) :
    Continues c (c.step action) := by
  cases action with
  | edit edit => exact continues_of_evolves rfl (.refl _) (fun _ hfits => hfits.edit edit) id
  | submit => exact h.submit_continues
  | turnPage turn => exact h.turnPage_continues turn
  | visit params => exact continues_of_evolves rfl (.refl _) (fun _ hfits => hfits) id
  | navigate patch => exact continues_of_evolves rfl (.refl _) (fun _ hfits => hfits) id
  | followAddress => exact h.followAddress_continues
  | poll => exact poll_continues c
  | takeHandle =>
      rw [step_takeHandle, takeHandle_eq]
      exact Beside.continues ⟨rfl, rfl, rfl, rfl, rfl⟩ id
  | refresh handle =>
      rw [step_refresh, refresh_eq]
      exact Beside.continues ⟨rfl, rfl, rfl, rfl, rfl⟩ id
  | complete number outcome => exact Beside.continues ⟨rfl, rfl, rfl, rfl, rfl⟩ id
  | abandon number => exact Beside.continues ⟨rfl, rfl, rfl, rfl, rfl⟩ id
  | completePreload outcome => exact Beside.continues ⟨rfl, rfl, rfl, rfl, rfl⟩ id
  | abandonPreload => exact Beside.continues ⟨rfl, rfl, rfl, rfl, rfl⟩ id
  | dispose => exact dispose_continues c

/-- Every action keeps a controller sound. -/
theorem Sound.step {c : Controller ι} (h : c.Sound) (action : Action ι) :
    (c.step action).Sound :=
  h.continue (h.step_continues action)

theorem Sound.run_continues {c : Controller ι} (h : c.Sound) (actions : List (Action ι)) :
    Continues c (c.run actions) := by
  induction actions generalizing c with
  | nil => exact .refl c
  | cons action rest ih => exact (h.step_continues action).trans (ih (h.step action))

theorem Sound.run {c : Controller ι} (h : c.Sound) (actions : List (Action ι)) :
    (c.run actions).Sound :=
  h.continue (h.run_continues actions)

theorem arrived_specs {specs : List FieldSpec} {filters : Filters}
    (h : Filters.ofSpecs specs = .ok filters) (wiring : Wiring)
    (searches : Desk Query (PageAnswer ι)) (preloads : Desk Query (PageAnswer Choice))
    (bar : AddressBar) : (arrived wiring filters searches preloads bar).filters.specs = specs := by
  have hdeclared : filters.specs = specs := Filters.ofSpecs_specs h
  exact (read_continues (blank wiring filters searches preloads bar).startPreload).specs.trans
    hdeclared

/-- Each field has what the address says of it. -/
theorem arrived_slots {specs : List FieldSpec} {filters : Filters}
    (h : Filters.ofSpecs specs = .ok filters) (wiring : Wiring)
    (searches : Desk Query (PageAnswer ι)) (preloads : Desk Query (PageAnswer Choice))
    (bar : AddressBar) : (arrived wiring filters searches preloads bar).filters.slots =
      specs.map fun spec => (spec, Text.normalize? (Filters.parameterFor bar.current spec)) := by
  have hdeclared : filters.specs = specs := Filters.ofSpecs_specs h
  exact (Filters.readParameters_slots (blank_isClosed h wiring searches preloads bar)
    bar.current .address).trans (congrArg (List.map _) hdeclared)

theorem sound_arrived {wiring : Wiring} {specs : List FieldSpec} {filters : Filters}
    (hfilters : Filters.ofSpecs specs = .ok filters)
    (hwired : ∀ name ∈ wiring.wiredFields, filters.contains name = true)
    (searches : Desk Query (PageAnswer ι)) (preloads : Desk Query (PageAnswer Choice))
    (bar : AddressBar) : (arrived wiring filters searches preloads bar).Sound := by
  have hnormal : filters.Normal := Filters.ofSpecs_normal hfilters
  have hstart : (blank wiring filters searches preloads bar).startPreload.Sound := by
    refine ⟨hwired, ⟨[], ?_⟩, hnormal, ?_, fun _ => ?_⟩
    · show (filters.valueFeed.subscribe.2).queues = [some []]
      rw [(Filters.ofSpecs_eq_ok hfilters).2]
      rfl
    · intro name v hv
      cases hv
    · exact blank_isClosed hfilters wiring searches preloads bar
  refine (hstart.continue (read_continues _)).continue ?_
  exact Beside.continues ⟨rfl, rfl, rfl, rfl, rfl⟩ fun _ h => Phase.noConfusion h

theorem sound_of_create {wiring : Wiring} {specs : List FieldSpec}
    {searches : Desk Query (PageAnswer ι)} {preloads : Desk Query (PageAnswer Choice)}
    {bar : AddressBar} {c : Controller ι}
    (h : create wiring specs searches preloads bar = .ok c) : c.Sound := by
  obtain ⟨filters, hfilters, hwired, hbeside⟩ := arrived_beside_of_create h
  have harrived := sound_arrived hfilters hwired searches preloads bar
  exact harrived.continue (hbeside.continues fun _ h => Phase.noConfusion h)

/-- A controller keeps the wiring and the declarations that it was built from. -/
theorem declarations_of_create {wiring : Wiring} {specs : List FieldSpec}
    {searches : Desk Query (PageAnswer ι)} {preloads : Desk Query (PageAnswer Choice)}
    {bar : AddressBar} {c : Controller ι}
    (h : create wiring specs searches preloads bar = .ok c) (actions : List (Action ι)) :
    (c.run actions).wiring = wiring ∧ (c.run actions).filters.specs = specs := by
  have hrun := (sound_of_create h).run_continues actions
  obtain ⟨filters, hfilters, _, hbeside⟩ := arrived_beside_of_create h
  refine ⟨hrun.wiring.trans hbeside.wiring, ?_⟩
  rw [hrun.specs, hbeside.filters]
  exact arrived_specs hfilters wiring searches preloads bar

/-! ## The end -/

/-- No action brings a disposed controller back. -/
theorem step_of_disposed {c : Controller ι} (h : c.phase = .disposed) (action : Action ι) :
    (c.step action).phase = .disposed := by
  cases action with
  | submit => rw [step_submit, submit, whenLive_of_disposed h, h]
  | turnPage turn => rw [step_turnPage, turnPage, whenLive_of_disposed h, h]
  | followAddress => rw [step_followAddress, followAddress, whenLive_of_disposed h, h]
  | poll => rw [step_poll, poll_of_disposed h, h]
  | dispose => rw [step_dispose, dispose_eq]
  | _ => rw [step_eq_of_passesBy c rfl, h]

theorem live_of_step {c : Controller ι} {action : Action ι}
    (h : (c.step action).phase ≠ .disposed) : c.phase ≠ .disposed :=
  fun hc => h (step_of_disposed hc action)

theorem live_of_run {c : Controller ι} (actions : List (Action ι))
    (h : (c.run actions).phase ≠ .disposed) : c.phase ≠ .disposed := by
  induction actions generalizing c with
  | nil => exact h
  | cons action rest ih => exact live_of_step (ih h)

end Controller

end RecordSearch
