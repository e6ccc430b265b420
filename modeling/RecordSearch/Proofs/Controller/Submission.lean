import RecordSearch.Proofs.Controller.Sound

/-!
# What a submission comes to

Whether there is something to search for is asked twice when a form is
submitted: first of the form, by the names of the controls that a search needs,
and then of the filters, once the form has been copied into them. The two need
not agree. A control may have a text that moves no field off its default,
because no shown field has its name, because the field goes back to its default
together with the page, or because the text is the default. Then the form is
taken, the search is turned down, and what was taken stays.

A control is `Heeded` if this cannot happen to it. When all controls that a
search needs are heeded, a submission that is turned down leaves no trace, and
one that is taken always searches.
-/

namespace RecordSearch

/-- Whether a submission gives a field what stands in the control of this name. -/
def FieldSpec.takes (spec : FieldSpec) (wiring : Wiring) (name : String) : Bool :=
  spec.name == name && !spec.hidden && !spec.hasKey wiring.pageField

/-- Whatever text the form holds in this control, it moves a field. -/
def Heeded (wiring : Wiring) (specs : List FieldSpec) (name : String) : Prop :=
  ∃ spec ∈ specs, spec.takes wiring name = true ∧
    ∀ v, spec.defaultValue = some v → ∃ text, Text.normalize v = some text ∧ text ≠ v

/-- The page has a field of its own, none of those of which a search needs one. -/
def OwnPage (wiring : Wiring) (specs : List FieldSpec) : Prop :=
  ∀ spec ∈ specs, spec.hasKey wiring.pageField = true →
    ∀ name ∈ wiring.neededFields, spec.hasKey name = false

theorem FieldSpec.takes_iff {spec : FieldSpec} {wiring : Wiring} {name : String} :
    spec.takes wiring name = true ↔
      spec.name = name ∧ spec.hidden = false ∧ spec.hasKey wiring.pageField = false := by
  rw [takes, Bool.and_eq_true, Bool.and_eq_true, beq_iff_eq, Bool.not_eq_true',
    Bool.not_eq_true', and_assoc]

theorem ownPage_of_heeded {wiring : Wiring} {fs : Filters}
    (h : ∀ name ∈ wiring.neededFields, Heeded wiring fs.specs name) :
    OwnPage wiring fs.specs := by
  intro spec hspec hpage name hname
  refine eq_false_of_ne_true fun hkey => ?_
  obtain ⟨other, hother, htakes, _⟩ := h name hname
  obtain ⟨rfl, _, hapart⟩ := FieldSpec.takes_iff.1 htakes
  obtain ⟨field, hfield, rfl⟩ := List.mem_map.1 hspec
  obtain ⟨field', hfield', rfl⟩ := List.mem_map.1 hother
  obtain rfl := Filters.field_eq_of_hasKey hfield hfield' hkey field'.spec.hasKey_name
  exact Bool.false_ne_true (hapart.symm.trans hpage)

/-! ## The standard fields -/

theorem standardFields_accepted (settings : Settings) :
    ∃ filters, Filters.ofSpecs standardFields = .ok filters ∧
      ∀ name ∈ (Wiring.ofSettings settings).wiredFields, filters.contains name = true := by
  obtain ⟨filters, hfilters, hcheck⟩ := exists_ok_of_check (Filters.ofSpecs standardFields)
    (fun filters => decide (∀ name ∈ Wiring.default.wiredFields, filters.contains name = true))
    (by decide +kernel)
  exact ⟨filters, hfilters, of_decide_eq_true hcheck⟩

theorem standardFields_heeded (settings : Settings) :
    ∀ name ∈ (Wiring.ofSettings settings).neededFields,
      Heeded (.ofSettings settings) standardFields name := by
  have htext : standardFields[0].takes .default textField = true := by decide +kernel
  have hcategory : standardFields[4].takes .default categoryField = true := by decide +kernel
  intro name hname
  rcases List.mem_cons.1 hname with rfl | hname
  · exact ⟨standardFields[0], by decide, htext, fun v hv => by cases hv⟩
  · obtain rfl := List.mem_singleton.1 hname
    exact ⟨standardFields[4], by decide, hcategory, fun v hv => by cases hv⟩

namespace Controller

variable {ι : Type} {c : Controller ι}

/-! ## What is copied -/

/-- The value that a submission leaves in a field. -/
theorem valueAfter_submission {field : FieldState} (hfield : field ∈ c.filters.fields) :
    field.valueAfter c.submission =
      if field.spec.hasKey c.wiring.pageField = true then none
      else if field.spec.hidden = true then field.value
      else Text.normalize? (c.form.get? field.spec.name) := by
  rw [← Form.valueAfter_assignments hfield, FieldState.valueAfter, submission,
    List.reverse_append, List.reverse_singleton, List.singleton_append, List.find?_cons,
    Filters.pageReset]
  cases hpage : field.spec.hasKey c.wiring.pageField with
  | true => rfl
  | false => rw [if_neg Bool.false_ne_true, FieldState.valueAfter]

theorem submitted_fields (hopen : c.filters.isClosed = false)
    (hpage : c.filters.contains c.wiring.pageField = true) :
    c.submitted.filters.fields = c.filters.fields.map (·.after c.submission) :=
  Filters.assign_fields_of_ok (Filters.assign_fst hopen (submission_known hpage) .user)

theorem paged_fields (hopen : c.filters.isClosed = false)
    (hpage : c.filters.contains c.wiring.pageField = true) (turn : PageTurn) :
    (c.paged turn).filters.fields = c.filters.fields.map
      (·.after [(c.wiring.pageField, some (toString (turn.target c.currentPage)))]) :=
  Filters.assign_fields_of_ok (Filters.assign_fst hopen (paged_known hpage turn) .pageTurn)

/-- A text in a heeded control makes a search. -/
theorem canSearch_submitted (h : c.Sound) (hlive : c.phase ≠ .disposed)
    (hheeded : ∀ name ∈ c.wiring.neededFields, Heeded c.wiring c.filters.specs name)
    (hfilled : c.isFilled = true) : c.submitted.canSearch = true := by
  obtain ⟨name, hname, hholds⟩ := List.any_eq_true.1 hfilled
  obtain ⟨spec, hspec, htakes, hdefault⟩ := hheeded name hname
  obtain ⟨rfl, hvisible, hpage⟩ := FieldSpec.takes_iff.1 htakes
  obtain ⟨field, hfield, rfl⟩ := List.mem_map.1 hspec
  rw [Form.holds, KeyMap.contains_eq, Option.isSome_iff_exists] at hholds
  obtain ⟨v, hv⟩ := hholds
  refine List.any_eq_true.2 ⟨field.spec.name, hname, ?_⟩
  rw [Filters.isMoved_of_after (submitted_fields (h.isOpen hlive) h.page_known) hfield
      field.spec.hasKey_name, valueAfter_submission hfield, hpage, hvisible,
    if_neg Bool.false_ne_true, if_neg Bool.false_ne_true, Form.get?, hv, Text.normalize?,
    Option.bind_some, FieldSpec.isDefault, FieldSpec.effective]
  -- The text is trimmed, or it is the default as it was declared.
  rcases h.fits _ v hv with hnormal | ⟨other, hother, hsame, hother_default⟩
  · rw [hnormal, Option.some_or]
    cases hd : field.spec.defaultValue with
    | none => rfl
    | some d =>
        obtain ⟨text, htext, hne⟩ := hdefault d hd
        have hdiffers : v ≠ d := by
          rintro rfl
          exact hne (Option.some.inj (htext.symm.trans hnormal))
        simpa using hdiffers
  · obtain ⟨field', hfield', rfl⟩ := List.mem_map.1 (List.mem_of_mem_filter hother)
    have hkey : field'.spec.hasKey field.spec.name = true := by
      rw [← hsame]
      exact field'.spec.hasKey_name
    obtain rfl := Filters.field_eq_of_hasKey hfield hfield' field.spec.hasKey_name hkey
    obtain ⟨text, htext, hne⟩ := hdefault v hother_default
    rw [htext, hother_default, Option.some_or]
    simpa using hne

/-- A page turn touches none of what is searched for. -/
theorem canSearch_paged_of_ownPage (h : c.Sound) (hlive : c.phase ≠ .disposed)
    (hown : OwnPage c.wiring c.filters.specs) (turn : PageTurn) (hcan : c.canSearch = true) :
    (c.paged turn).canSearch = true := by
  obtain ⟨name, hname, hmoved⟩ := List.any_eq_true.1 hcan
  obtain ⟨field, hfield, hkey, v, hv, hdefault⟩ := Filters.isMoved_iff.1 hmoved
  have hpage : field.spec.hasKey c.wiring.pageField = false := by
    refine eq_false_of_ne_true fun hpage => ?_
    have hother := hown field.spec (List.mem_map_of_mem hfield) hpage name hname
    exact Bool.false_ne_true (hother.symm.trans hkey)
  refine List.any_eq_true.2 ⟨name, hname, Filters.isMoved_iff.2
    ⟨field.after [(c.wiring.pageField, some (toString (turn.target c.currentPage)))], ?_, hkey,
      v, ?_, hdefault⟩⟩
  · rw [paged_fields (h.isOpen hlive) h.page_known]
    exact List.mem_map_of_mem hfield
  · rw [FieldState.after, FieldState.valueAfter_singleton, hpage, if_neg Bool.false_ne_true]
    exact hv

/-- Heeded controls are not touched by a page turn. -/
theorem canSearch_paged (h : c.Sound) (hlive : c.phase ≠ .disposed)
    (hheeded : ∀ name ∈ c.wiring.neededFields, Heeded c.wiring c.filters.specs name)
    (turn : PageTurn) (hcan : c.canSearch = true) : (c.paged turn).canSearch = true :=
  canSearch_paged_of_ownPage h hlive (ownPage_of_heeded hheeded) turn hcan

/-! ## What a rejection leaves behind -/

/-- All is as it was, but for the mark of the rejection and the touched controls. -/
structure Untouched (c d : Controller ι) : Prop where
  effectives : d.filters.effectives = c.filters.effectives
  fetched : d.filters.fields.map (·.fetched) = c.filters.fields.map (·.fetched)
  valueFeed : d.filters.valueFeed = c.filters.valueFeed
  choicesFeed : d.filters.choicesFeed = c.filters.choicesFeed
  others : { d with
    filters := c.filters
    turnedDown := c.turnedDown
    form := { d.form with touched := c.form.touched } } = c

/-- A live controller with these declarations that is about to turn its form down. -/
def Rejects (wiring : Wiring) (specs : List FieldSpec) (c : Controller ι) : Prop :=
  ∃ source preloadSource bar start actions,
    create wiring specs (.ofSource source) (.ofSource preloadSource) bar = .ok start ∧
    c = start.run actions ∧ c.phase ≠ .disposed ∧
    ∃ names, c.submit.1 = .error (.blankQuery names)

theorem submit_of_rejected (h : c.Sound) (hlive : c.phase ≠ .disposed)
    (hrejected : ∃ names, c.submit.1 = .error (.blankQuery names)) :
    c.submit.2 = if c.isFilled = true then c.submitted.turnDown.2 else c.turnDown.2 := by
  cases hfilled : c.isFilled with
  | false => rw [submit_of_blank hlive hfilled, if_neg Bool.false_ne_true]
  | true =>
      have hsubmit := submit_of_filled hlive (h.isOpen hlive) h.page_known hfilled
      obtain ⟨names, hnames⟩ := hrejected
      cases hcan : c.submitted.canSearch with
      | true =>
          rw [hsubmit, beginSearch_of_canSearch hcan] at hnames
          cases hnames
      | false => rw [hsubmit, beginSearch_of_not_canSearch hcan, if_pos rfl]

/-- A rejection is without trace if the form was not taken, or if it was taken
by an engaged controller and put nothing else into effect. -/
theorem untouched_of_rejected_iff (h : c.Sound) (hlive : c.phase ≠ .disposed)
    (hrejected : ∃ names, c.submit.1 = .error (.blankQuery names)) :
    Untouched c c.submit.2 ↔
      c.isFilled = false ∨
        (c.engaged = true ∧ c.submitted.filters.effectives = c.filters.effectives) := by
  have hsubmit := submit_of_rejected h hlive hrejected
  cases hfilled : c.isFilled with
  | false =>
      rw [hsubmit, hfilled, if_neg Bool.false_ne_true]
      exact ⟨fun _ => .inl rfl, fun _ => ⟨rfl, rfl, rfl, rfl, rfl⟩⟩
  | true =>
      rw [hsubmit, hfilled, if_pos rfl]
      constructor
      · intro huntouched
        exact .inr ⟨(congrArg engaged huntouched.others).symm, huntouched.effectives⟩
      · rintro (hblank | ⟨hengaged, heff⟩)
        · cases hblank
        · have hknown := submission_known h.page_known
          have hanswer : (c.filters.assign c.submission .user).1 = .ok false := by
            rw [Filters.assign_fst (h.isOpen hlive) hknown]
            simpa [submitted] using heff
          refine ⟨heff, ?_, ?_, ?_, ?_⟩
          · show c.submitted.filters.fields.map _ = _
            rw [submitted_fields (h.isOpen hlive) h.page_known, List.map_map]
            rfl
          · show (c.filters.assign c.submission .user).2.valueFeed = _
            rw [Filters.assign_valueFeed, hanswer]
          · exact Filters.assign_choicesFeed c.filters c.submission .user
          · show ({ c with engaged := true } : Controller ι) = c
            rw [← hengaged]

/-! ## Declarations that leave a trace

If some control is not heeded, a trace is left in the first minute: on an
address without parameters the controller is not engaged and no field is off
its default; the person clears the other controls, and the one that is not
heeded has a text already or gets one. -/

theorem isMoved_of_unset {fs : Filters} (h : ∀ field ∈ fs.fields, field.value = none)
    (key : String) : fs.isMoved key = false := by
  rw [Filters.isMoved]
  split
  · next field hfield =>
      rw [FieldState.isMoved, h field (Filters.field?_eq_some_iff.1 hfield).1]
      rfl
  · rfl

section Traces

variable {wiring : Wiring} {specs : List FieldSpec} {filters : Filters}
  {searches : Desk Query (PageAnswer ι)} {preloads : Desk Query (PageAnswer Choice)}
  {path : String}

/-- On an address without parameters every field is unset. -/
theorem arrived_unset (hfilters : Filters.ofSpecs specs = .ok filters) :
    ∀ field ∈ (arrived wiring filters searches preloads (.showing path .empty)).filters.fields,
      field.value = none := by
  intro field hfield
  have hslot := Filters.mem_slots.2 ⟨field, hfield, rfl, rfl⟩
  rw [arrived_slots hfilters wiring searches preloads] at hslot
  obtain ⟨spec, _, heq⟩ := List.mem_map.1 hslot
  refine (congrArg Prod.snd heq).symm.trans ?_
  show Text.normalize? (Filters.parameterFor .empty spec) = none
  rw [Filters.parameterFor]
  cases spec.aliasKey with
  | none => rfl
  | some key => rfl

theorem create_of_unset (hfilters : Filters.ofSpecs specs = .ok filters)
    (hwired : ∀ name ∈ wiring.wiredFields, filters.contains name = true) :
    create wiring specs searches preloads (.showing path .empty) =
      .ok (arrived wiring filters searches preloads (.showing path .empty)) := by
  have hunset : ∀ field ∈ (arrived wiring filters searches preloads
      (.showing path .empty)).filters.fields, field.value = none := arrived_unset hfilters
  have hcan : (arrived wiring filters searches preloads
      (.showing path .empty)).canSearch = false := by
    rw [canSearch, List.any_eq_false]
    intro key _
    rw [isMoved_of_unset hunset]
    exact Bool.false_ne_true
  exact create_eq_ok_iff.2 ⟨filters, hfilters, hwired, by rw [started, hcan]; rfl⟩

theorem arrived_not_engaged (hfilters : Filters.ofSpecs specs = .ok filters) :
    (arrived wiring filters searches preloads (.showing path .empty)).engaged = false := by
  show showsFilter (read _) = false
  rw [showsFilter, List.any_eq_false]
  intro spec _
  have hunset : ∀ field ∈ (arrived wiring filters searches preloads
      (.showing path .empty)).filters.fields, field.value = none := arrived_unset hfilters
  have hunmoved := isMoved_of_unset hunset spec.name
  exact fun hmoved => Bool.false_ne_true (hunmoved.symm.trans hmoved)

end Traces

theorem run_edits (c : Controller ι) (edits : List Form.Edit) :
    c.run (edits.map .edit) = { c with form := edits.foldl Form.edit c.form } := by
  induction edits generalizing c with
  | nil => rfl
  | cons edit rest ih =>
      rw [List.map_cons, List.foldl_cons]
      show (c.step (.edit edit)).run _ = _
      rw [ih]
      rfl

/-- The edits that clear some controls. -/
def clearing (names : List String) : List Form.Edit :=
  names.map fun name => .control name none

theorem get?_clearing (names : List String) (form : Form) (key : String) :
    ((clearing names).foldl Form.edit form).get? key =
      if key ∈ names then none else form.get? key := by
  induction names generalizing form with
  | nil => rfl
  | cons name rest ih =>
      have hset : (form.edit (.control name none)).get? key =
          if key = name then none else form.get? key :=
        KeyMap.get?_erase form.controls name key
      rw [clearing, List.map_cons, List.foldl_cons, ← clearing, ih, hset]
      by_cases hkey : key = name
      · simp [hkey]
      · simp [hkey]

/-- A form that is not blank, but leaves every field at its default. -/
theorem submit_of_defaults (h : c.Sound) (hlive : c.phase ≠ .disposed)
    (hfilled : c.isFilled = true)
    (hdefaults : ∀ field ∈ c.filters.fields,
      field.spec.isDefault (field.valueAfter c.submission) = true) :
    c.submit = (.error (.blankQuery c.wiring.neededFields), c.submitted.turnDown.2) := by
  have hcan : c.submitted.canSearch = false := by
    rw [canSearch, List.any_eq_false]
    intro key hkey
    obtain ⟨field, hfind⟩ := Filters.exists_field_of_contains (h.wired key (needed_wired hkey))
    obtain ⟨hfield, hkey⟩ := Filters.field?_eq_some_iff.1 hfind
    rw [Filters.isMoved_of_after (submitted_fields (h.isOpen hlive) h.page_known) hfield hkey,
      hdefaults field hfield]
    exact Bool.false_ne_true
  rw [submit_of_filled hlive (h.isOpen hlive) h.page_known hfilled,
    beginSearch_of_not_canSearch hcan]
  rfl

/-- The edits that clear the other controls and fill the one of this name. If a
field takes what stands in it, its default stands there already. -/
def tracing (wiring : Wiring) (specs : List FieldSpec) (name : String) : List Form.Edit :=
  clearing ((specs.filter (·.name ≠ name)).map (·.name)) ++
    if specs.any (·.takes wiring name) then [] else [.control name (some "x")]

theorem get?_tracing (wiring : Wiring) (specs : List FieldSpec) (name : String)
    (form : Form) :
    ((tracing wiring specs name).foldl Form.edit form).get? name =
      if specs.any (·.takes wiring name) then form.get? name else some "x" := by
  have hcleared : ((clearing ((specs.filter (·.name ≠ name)).map (·.name))).foldl
      Form.edit form).get? name = form.get? name := by
    rw [get?_clearing, if_neg]
    intro hmem
    obtain ⟨spec, hspec, hname⟩ := List.mem_map.1 hmem
    exact absurd hname (by simpa using (List.mem_filter.1 hspec).2)
  have hx : Text.normalize? (some "x") = some "x" := by decide +kernel
  rw [tracing, List.foldl_append]
  split
  · exact hcleared
  · rw [List.foldl_cons, List.foldl_nil, Form.edit, Form.set, hx, Form.get?]
    dsimp only
    rw [KeyMap.get?_insert, if_pos rfl]

theorem get?_tracing_of_ne (wiring : Wiring) {specs : List FieldSpec} {name : String}
    (form : Form) {spec : FieldSpec} (hspec : spec ∈ specs) (hne : spec.name ≠ name) :
    ((tracing wiring specs name).foldl Form.edit form).get? spec.name = none := by
  have hcleared : ((clearing ((specs.filter (·.name ≠ name)).map (·.name))).foldl
      Form.edit form).get? spec.name = none := by
    rw [get?_clearing, if_pos]
    exact List.mem_map.2 ⟨spec, List.mem_filter.2 ⟨hspec, by simpa using hne⟩, rfl⟩
  have hx : Text.normalize? (some "x") = some "x" := by decide +kernel
  rw [tracing, List.foldl_append]
  split
  · exact hcleared
  · rw [List.foldl_cons, List.foldl_nil, Form.edit, Form.set, hx, Form.get?]
    dsimp only
    rw [KeyMap.get?_insert, if_neg hne]
    exact hcleared

/-- A controller on an address without parameters, with a form that is edited so. -/
def traced (ι : Type) (wiring : Wiring) (specs : List FieldSpec) (filters : Filters)
    (name : String) : Controller ι :=
  let start := arrived wiring filters (.ofSource fun _ _ => .hold) (.ofSource fun _ _ => .hold)
    (.showing "/" .empty)
  { start with form := (tracing wiring specs name).foldl Form.edit start.form }

section Traced

variable {wiring : Wiring} {specs : List FieldSpec} {filters : Filters} {name : String}

/-- If a field takes what stands in a control that is not heeded, the field has
a default that a submission does not change. -/
theorem default_of_unheeded (hunheeded : ¬ Heeded wiring specs name) {spec : FieldSpec}
    (hspec : spec ∈ specs) (htakes : spec.takes wiring name = true) :
    ∃ v, spec.defaultValue = some v ∧
      (Text.normalize? (some v)).or spec.defaultValue = spec.defaultValue := by
  by_contra hnone
  refine hunheeded ⟨spec, hspec, htakes, fun v hv => ?_⟩
  cases htext : Text.normalize v with
  | none =>
      refine absurd ⟨v, hv, ?_⟩ hnone
      rw [Text.normalize?, Option.bind_some, htext, Option.none_or]
  | some text =>
      refine ⟨text, rfl, fun hsame => hnone ⟨v, hv, ?_⟩⟩
      rw [Text.normalize?, Option.bind_some, htext, Option.some_or, hv, hsame]

theorem traced_create (ι : Type) (name : String) (hfilters : Filters.ofSpecs specs = .ok filters)
    (hwired : ∀ name ∈ wiring.wiredFields, filters.contains name = true) :
    ∃ start : Controller ι, create wiring specs (.ofSource fun _ _ => .hold)
        (.ofSource fun _ _ => .hold) (.showing "/" .empty) = .ok start ∧
      traced ι wiring specs filters name = start.run ((tracing wiring specs name).map .edit) :=
  ⟨_, create_of_unset hfilters hwired, (run_edits _ _).symm⟩

theorem traced_specs (hfilters : Filters.ofSpecs specs = .ok filters) :
    (traced ι wiring specs filters name).filters.specs = specs :=
  arrived_specs hfilters wiring _ _ _

theorem spec_mem_of_traced (hfilters : Filters.ofSpecs specs = .ok filters) {field : FieldState}
    (hfield : field ∈ (traced ι wiring specs filters name).filters.fields) :
    field.spec ∈ specs := by
  have hmem : field.spec ∈ (traced ι wiring specs filters name).filters.specs :=
    List.mem_map_of_mem hfield
  rwa [traced_specs hfilters] at hmem

/-- The control of a field that takes from it shows the default. -/
theorem traced_get? (hfilters : Filters.ofSpecs specs = .ok filters) {field : FieldState}
    (hfield : field ∈ (traced ι wiring specs filters name).filters.fields)
    (htakes : field.spec.takes wiring name = true) :
    (traced ι wiring specs filters name).form.get? name = field.spec.defaultValue := by
  obtain ⟨hname, hvisible, _⟩ := FieldSpec.takes_iff.1 htakes
  have hspec := spec_mem_of_traced hfilters hfield
  have hunset := arrived_unset hfilters field hfield
  refine (get?_tracing wiring specs name _).trans ?_
  rw [if_pos (List.any_eq_true.2 ⟨_, hspec, htakes⟩), ← hname]
  refine (Form.get?_refill hfield hvisible _).trans ?_
  rw [FieldState.effective, FieldSpec.effective, hunset, Option.none_or]

theorem traced_filled (hfilters : Filters.ofSpecs specs = .ok filters)
    (hname : name ∈ wiring.neededFields) (hunheeded : ¬ Heeded wiring specs name) :
    (traced ι wiring specs filters name).isFilled = true := by
  refine List.any_eq_true.2 ⟨name, hname, ?_⟩
  rw [Form.holds, KeyMap.contains_eq]
  show ((traced ι wiring specs filters name).form.get? name).isSome = true
  by_cases htaken : specs.any (·.takes wiring name) = true
  · obtain ⟨spec, hspec, htakes⟩ := List.any_eq_true.1 htaken
    have hdeclared : spec ∈ (traced ι wiring specs filters name).filters.specs := by
      rwa [traced_specs hfilters]
    obtain ⟨field, hfield, rfl⟩ := List.mem_map.1 hdeclared
    obtain ⟨v, hv, _⟩ := default_of_unheeded hunheeded hspec htakes
    rw [traced_get? hfilters hfield htakes, hv]
    rfl
  · have hfilled : (traced ι wiring specs filters name).form.get? name = some "x" := by
      refine (get?_tracing wiring specs name _).trans ?_
      rw [if_neg htaken]
    rw [hfilled]
    rfl

/-- A submission leaves every field at its default. -/
theorem traced_defaults (hfilters : Filters.ofSpecs specs = .ok filters)
    (hunheeded : ¬ Heeded wiring specs name) {field : FieldState}
    (hfield : field ∈ (traced ι wiring specs filters name).filters.fields) :
    field.spec.isDefault
      (field.valueAfter (traced ι wiring specs filters name).submission) = true := by
  have hspec := spec_mem_of_traced hfilters hfield
  rw [valueAfter_submission hfield, FieldSpec.isDefault, FieldSpec.effective, beq_iff_eq]
  split
  · rfl
  · next hpage =>
      split
      · rw [arrived_unset hfilters field hfield, Option.none_or]
      · next hvisible =>
          by_cases hother : field.spec.name = name
          · have htakes : field.spec.takes wiring name = true :=
              FieldSpec.takes_iff.2 ⟨hother, eq_false_of_ne_true hvisible,
                eq_false_of_ne_true hpage⟩
            obtain ⟨v, hv, hsame⟩ := default_of_unheeded hunheeded hspec htakes
            rw [hother, traced_get? hfilters hfield htakes, hv]
            rwa [hv] at hsame
          · have hcleared : (traced ι wiring specs filters name).form.get?
                field.spec.name = none := get?_tracing_of_ne wiring _ hspec hother
            rw [hcleared]
            rfl

end Traced

/-- A control that is not heeded makes a rejection that leaves a trace. -/
theorem exists_traced {wiring : Wiring} {specs : List FieldSpec} {filters : Filters}
    (hfilters : Filters.ofSpecs specs = .ok filters)
    (hwired : ∀ name ∈ wiring.wiredFields, filters.contains name = true) {name : String}
    (hname : name ∈ wiring.neededFields) (hunheeded : ¬ Heeded wiring specs name) :
    ∃ c : Controller ι, Rejects wiring specs c ∧ ¬ Untouched c c.submit.2 := by
  obtain ⟨start, hcreate, hrun⟩ := traced_create ι name hfilters hwired
  have hsound : (traced ι wiring specs filters name).Sound := by
    rw [hrun]
    exact (sound_of_create hcreate).run _
  have hlive : (traced ι wiring specs filters name).phase ≠ .disposed :=
    Phase.noConfusion
  have hsubmit := submit_of_defaults hsound hlive (traced_filled hfilters hname hunheeded)
    fun field hfield => traced_defaults hfilters hunheeded hfield
  refine ⟨_, ⟨_, _, _, start, _, hcreate, hrun, hlive, ⟨_, by rw [hsubmit]⟩⟩, ?_⟩
  -- The controller is engaged now, and was not.
  rw [hsubmit]
  intro huntouched
  have hengaged : (traced ι wiring specs filters name).engaged = true :=
    (congrArg engaged huntouched.others).symm
  exact absurd (hengaged.symm.trans (arrived_not_engaged hfilters)) Bool.noConfusion

/-- A rejection is without trace if the form was not taken, or if it was taken
by an engaged controller and put nothing else into effect. That all rejections
are without trace is a matter of the declarations: it holds exactly if both
controls that a search needs are heeded. -/
theorem rejection_untouched_iff {wiring : Wiring} {specs : List FieldSpec} {filters : Filters}
    (hfilters : Filters.ofSpecs specs = .ok filters)
    (hwired : ∀ name ∈ wiring.wiredFields, filters.contains name = true) :
    (∀ c : Controller ι, Rejects wiring specs c →
      (Untouched c c.submit.2 ↔ c.isFilled = false ∨
        (c.engaged = true ∧ c.submitted.filters.effectives = c.filters.effectives))) ∧
    ((∀ c : Controller ι, Rejects wiring specs c → Untouched c c.submit.2) ↔
      ∀ name ∈ wiring.neededFields, Heeded wiring specs name) := by
  have hstate : ∀ c : Controller ι, Rejects wiring specs c →
      (Untouched c c.submit.2 ↔ c.isFilled = false ∨
        (c.engaged = true ∧ c.submitted.filters.effectives = c.filters.effectives)) := by
    rintro c ⟨source, preloadSource, bar, start, actions, hcreate, rfl, hlive, hrejected⟩
    exact untouched_of_rejected_iff ((sound_of_create hcreate).run actions) hlive hrejected
  refine ⟨hstate, ?_, ?_⟩
  · intro hall name hname
    by_contra hunheeded
    obtain ⟨c, hrejects, htraced⟩ := exists_traced hfilters hwired hname hunheeded
    exact htraced (hall c hrejects)
  · intro hheeded c hrejects
    rw [hstate c hrejects]
    obtain ⟨source, preloadSource, bar, start, actions, hcreate, rfl, hlive, hrejected⟩ :=
      hrejects
    have hsound := (sound_of_create hcreate).run actions
    obtain ⟨hwiring, hspecs⟩ := declarations_of_create hcreate actions
    refine .inl ?_
    by_contra hfilled
    rw [Bool.not_eq_false] at hfilled
    have hcan := canSearch_submitted hsound hlive (by rwa [hwiring, hspecs]) hfilled
    obtain ⟨names, hnames⟩ := hrejected
    rw [submit_of_filled hlive (hsound.isOpen hlive) hsound.page_known hfilled,
      beginSearch_of_canSearch hcan] at hnames
    cases hnames

/-- The standard fields leave no trace of a rejection. -/
theorem rejection_untouched_of_standardFields :
    ∃ filters, Filters.ofSpecs standardFields = .ok filters ∧
      (∀ name ∈ (Wiring.ofSettings .default).wiredFields, filters.contains name = true) ∧
      ∀ c : Controller Unit, Rejects (.ofSettings .default) standardFields c →
        Untouched c c.submit.2 := by
  obtain ⟨filters, hfilters, hwired⟩ := standardFields_accepted .default
  exact ⟨filters, hfilters, hwired,
    (rejection_untouched_iff hfilters hwired).2.2 (standardFields_heeded .default)⟩

/-- Declarations with a text that stands for no text. -/
def openFields : List FieldSpec :=
  [{ FieldSpec.named textField with defaultValue := some "all" },
   { FieldSpec.named pageField with hidden := true, defaultValue := some "1" },
   FieldSpec.named credentialTypeField, FieldSpec.named categoryField]

/-- With them a rejected submission puts its other controls into effect. -/
theorem not_untouched_of_openFields :
    ∃ c : Controller Unit,
      create .default openFields (.ofSource fun _ _ => .hold) (.ofSource fun _ _ => .hold)
        (.ofUrl "/search") = .ok c ∧
      (c.run [.edit (.control credentialTypeField (some "4"))]).phase ≠ .disposed ∧
      (∃ names, (c.run [.edit (.control credentialTypeField (some "4"))]).submit.1 =
        .error (.blankQuery names)) ∧
      ¬ Untouched (c.run [.edit (.control credentialTypeField (some "4"))])
        (c.run [.edit (.control credentialTypeField (some "4"))]).submit.2 := by
  obtain ⟨c, hcreate, hcheck⟩ := exists_ok_of_check
    (create .default openFields (.ofSource fun _ _ => .hold)
      (.ofSource fun _ _ => .hold) (.ofUrl "/search"))
    (fun c : Controller Unit =>
      let d := c.run [.edit (.control credentialTypeField (some "4"))]
      decide (d.phase ≠ .disposed ∧ d.isFilled = true ∧ d.submitted.canSearch = false ∧
        d.submit.2.filters.effectives ≠ d.filters.effectives))
    (by decide +kernel)
  obtain ⟨hlive, hfilled, hcan, hdiffers⟩ := of_decide_eq_true hcheck
  have hsound := (sound_of_create hcreate).run [.edit (.control credentialTypeField (some "4"))]
  have hsubmit := submit_of_filled hlive (hsound.isOpen hlive) hsound.page_known hfilled
  rw [beginSearch_of_not_canSearch hcan] at hsubmit
  exact ⟨c, hcreate, hlive, ⟨_, by rw [hsubmit]⟩, fun h => hdiffers h.effectives⟩

end Controller

end RecordSearch
