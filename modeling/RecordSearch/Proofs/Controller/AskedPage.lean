import RecordSearch.Proofs.Controller.Arrival
import RecordSearch.Proofs.Controller.SearchGate

/-!
# The page shown and the page asked for

The page number is read twice. A controller shows the number in the field that
plays the part of the page, whatever that field is called, and trims what it
reads. A query is asked for the number under the key `page`, as it stands there,
among values that leave out a suppressed default.

So it is a matter of the declarations whether the page shown is the page asked
for. The field in the part must have the name `page`. A value of its own reads
the same both ways, since values are trimmed and a suppressed one is the
default; but the default itself may be a later page that no query mentions, or
have blanks around it, and then the two part as soon as something else is
searched for. `PageWired` says when this cannot happen, and it is exactly what
it takes: declarations that break it part on the first address.
-/

namespace RecordSearch

/-- An unset field says the same page to a query as it shows. -/
def FieldSpec.PagesAlike (spec : FieldSpec) : Prop :=
  ∀ d, spec.defaultValue = some d →
    pageNumber (if spec.suppressDefault then none else some d) = pageNumber (some (Text.trim d))

/-- The part of the page is played by the field of this name. Either it says the
same page while it is unset, or it is what every search is for, and so is set. -/
def PageWired (wiring : Wiring) (specs : List FieldSpec) : Prop :=
  ∃ spec ∈ specs, spec.name = pageField ∧ spec.hasKey wiring.pageField = true ∧
    ((∀ name ∈ wiring.neededFields, spec.hasKey name = true) ∨ spec.PagesAlike)

namespace FieldState

/-- What a field says of the page in a query. -/
def askedPage (field : FieldState) : UInt32 :=
  pageNumber (field.queryEntry.map (·.2))

/-- The page that a field shows. -/
def shownPage (field : FieldState) : UInt32 :=
  pageNumber (field.effective.map Text.trim)

theorem askedPage_of_moved {field : FieldState}
    (hnormal : ∀ v, field.value = some v → Text.normalize v = some v)
    (hmoved : field.isMoved = true) : field.askedPage = field.shownPage := by
  obtain ⟨v, hv, hdefault⟩ := isMoved_iff.1 hmoved
  have heff : field.effective = some v := by
    rw [effective, FieldSpec.effective, hv, Option.some_or]
  have hoff : field.atDefault = false := by
    rwa [isMoved_eq, Bool.not_eq_true'] at hmoved
  have htrim : Text.trim v = v := (Text.normalize_eq_some_iff.1 (hnormal v hv)).2
  rw [askedPage, shownPage, queryEntry, heff, hoff, Bool.and_false, Option.map_some, htrim]
  rfl

theorem shownPage_of_number (spec : FieldSpec) (n : UInt32) (h : 1 ≤ n) :
    shownPage ⟨spec, some (toString n), none⟩ = n := by
  rw [shownPage, effective, FieldSpec.effective, Option.some_or, Option.map_some, Text.trim,
    Text.trim_toString, String.ofList_toList, pageNumber_toString h]

/-- At its default a field is in a query what its declaration says. -/
theorem askedPage_of_atDefault {field : FieldState} (h : field.atDefault = true) :
    field.askedPage = field.shownPage ↔ field.spec.PagesAlike := by
  rw [askedPage, shownPage, queryEntry, h, Bool.and_true, effective_of_atDefault h,
    FieldSpec.PagesAlike]
  cases field.spec.defaultValue with
  | none => simp
  | some d =>
      cases field.spec.suppressDefault with
      | true => simp
      | false => simp

end FieldState

namespace Controller

variable {ι : Type} {c : Controller ι} {wiring : Wiring} {specs : List FieldSpec}

/-- A query is for the page that a controller shows. -/
structure Asked (c : Controller ι) (q : Query) : Prop where
  page : q.page = c.currentPage
  offset : q.offset.toNat = (c.currentPage.toNat - 1) * c.wiring.pageSize.toNat

/-- Whatever happens to a controller with these declarations, each query is
filed for the page that it shows then. -/
def AsksShownPage (ι : Type) (wiring : Wiring) (specs : List FieldSpec) : Prop :=
  ∀ source preloadSource bar, ∀ c : Controller ι,
    create wiring specs (.ofSource source) (.ofSource preloadSource) bar = .ok c →
      (∀ q ∈ c.searches.subjects, c.Asked q) ∧
      ∀ actions action,
        ∀ q ∈ ((c.run actions).step action).searches.subjects.drop (c.run actions).searches.size,
          ((c.run actions).step action).Asked q

/-! ## Reading the page twice -/

theorem query_page {field : FieldState} (hfield : field ∈ c.filters.fields)
    (hname : field.spec.name = pageField) : c.query.page = field.askedPage := by
  rw [Query.page_eq, ← hname, Query.get?, query, Filters.get?_values hfield,
    FieldState.askedPage]

theorem currentPage_eq {field : FieldState} (hfield : field ∈ c.filters.fields)
    (hkey : field.spec.hasKey c.wiring.pageField = true) : c.currentPage = field.shownPage := by
  rw [currentPage, Filters.page_eq, Filters.value?, Filters.field?_eq_some_iff.2 ⟨hfield, hkey⟩,
    Option.bind_some, FieldState.shownPage]

/-- With declarations that are wired, a search is for the page shown. -/
theorem asked_query (hsound : c.Sound) (hwired : PageWired c.wiring c.filters.specs)
    (hcan : c.canSearch = true) : c.Asked c.query := by
  obtain ⟨spec, hspec, hname, hkey, hcases⟩ := hwired
  obtain ⟨field, hfield, rfl⟩ := List.mem_map.1 hspec
  have hpage : field.askedPage = field.shownPage := by
    cases hmoved : field.isMoved with
    | true => exact FieldState.askedPage_of_moved (hsound.normal field hfield) hmoved
    | false =>
        rcases hcases with hneeded | halike
        · -- Another field cannot have let the search pass.
          obtain ⟨name, hneed, other, hother, hkey', v, hv, hdefault⟩ := canSearch_iff.1 hcan
          obtain rfl := Filters.field_eq_of_hasKey hfield hother (hneeded name hneed) hkey'
          rw [FieldState.isMoved_iff.2 ⟨v, hv, hdefault⟩] at hmoved
          cases hmoved
        · rw [FieldState.isMoved_eq, Bool.not_eq_false'] at hmoved
          exact (FieldState.askedPage_of_atDefault hmoved).2 halike
  have hsame : c.query.page = c.currentPage := by
    rw [query_page hfield hname, currentPage_eq hfield hkey, hpage]
  exact ⟨hsame, by rw [Query.offset_toNat, hsame]; rfl⟩

theorem Searched.asked {p : Prop} {before : List Query} (h : Searched p before c)
    (hsound : c.Sound) (hwired : PageWired c.wiring c.filters.specs) :
    ∀ q ∈ c.searches.subjects.drop before.length, c.Asked q := by
  intro q hq
  rcases h with ⟨_, hcan, hsubjects⟩ | ⟨_, hsubjects⟩
  · rw [hsubjects, List.drop_left] at hq
    obtain rfl := List.mem_singleton.1 hq
    exact asked_query hsound hwired hcan
  · rw [hsubjects, List.drop_length] at hq
    cases hq

theorem asksShownPage_of_pageWired (hwired : PageWired wiring specs) :
    AsksShownPage ι wiring specs := by
  intro source preloadSource bar c hcreate
  have hsound := sound_of_create hcreate
  constructor
  · obtain ⟨hwiring, hspecs⟩ : c.wiring = wiring ∧ c.filters.specs = specs :=
      declarations_of_create hcreate []
    exact (searched_of_create hcreate).1.asked hsound (by rwa [hwiring, hspecs])
  · intro actions action
    obtain ⟨hwiring, hspecs⟩ := declarations_of_create hcreate (actions ++ [action])
    rw [run, List.foldl_append] at hwiring hspecs
    have hbefore := hsound.run actions
    have hasked := (hbefore.searched_step action).asked (hbefore.step action)
      (by rwa [← hwiring, ← hspecs] at hwired)
    rwa [Desk.length_subjects] at hasked

/-! ## Addresses on which the two part

Whether the two part is seen on the first address already, where a field has
what the address gives it and nothing else. -/

section Opened

variable {filters : Filters} {value : FieldSpec → Option String} {params : Parameters}

theorem field_of_slots {fs : Filters} (hslots : fs.slots = specs.map fun spec => (spec, value spec))
    {spec : FieldSpec} (hspec : spec ∈ specs) :
    ∃ field ∈ fs.fields, field.spec = spec ∧ field.value = value spec := by
  rw [← Filters.mem_slots, hslots]
  exact List.mem_map.2 ⟨spec, hspec, rfl⟩

theorem currentPage_of_slots (hslots : c.filters.slots = specs.map fun spec => (spec, value spec))
    {spec : FieldSpec} (hspec : spec ∈ specs) (hkey : spec.hasKey c.wiring.pageField = true) :
    c.currentPage = FieldState.shownPage ⟨spec, value spec, none⟩ := by
  obtain ⟨field, hfield, rfl, hvalue⟩ := field_of_slots hslots hspec
  rw [currentPage_eq hfield hkey, ← hvalue]
  rfl

theorem query_page_of_slots (hslots : c.filters.slots = specs.map fun spec => (spec, value spec))
    {spec : FieldSpec} (hspec : spec ∈ specs) (hname : spec.name = pageField) :
    c.query.page = FieldState.askedPage ⟨spec, value spec, none⟩ := by
  obtain ⟨field, hfield, rfl, hvalue⟩ := field_of_slots hslots hspec
  rw [query_page hfield hname, ← hvalue]
  rfl

theorem query_page_of_unnamed
    (hslots : c.filters.slots = specs.map fun spec => (spec, value spec))
    (hnames : ∀ spec ∈ specs, spec.name ≠ pageField) : c.query.page = 1 := by
  have hspecs : c.filters.specs = specs := by
    rw [Filters.specs_eq_map_slots, hslots, List.map_map]
    exact List.map_id specs
  rw [Query.page_eq, Query.get?, query, Filters.get?_values_of_unnamed (by rwa [hspecs])]
  rfl

/-- On an address that makes a query, a controller begins with a search for the
values that the address gives. -/
theorem exists_opened (hfilters : Filters.ofSpecs specs = .ok filters)
    (hwired : ∀ name ∈ wiring.wiredFields, filters.contains name = true)
    (hall : AsksShownPage ι wiring specs) (hcarries : CarriesQuery wiring specs params) :
    ∃ c : Controller ι, c.wiring = wiring ∧ c.query.page = c.currentPage ∧
      c.filters.slots = specs.map fun spec =>
        (spec, Text.normalize? (Filters.parameterFor params spec)) := by
  obtain ⟨c, hcreate⟩ : ∃ c : Controller ι, create wiring specs (.ofSource fun _ _ => .hold)
      (.ofSource fun _ _ => .hold) (.showing "/" params) = .ok c :=
    ⟨_, create_eq_ok_iff.2 ⟨filters, hfilters, hwired, rfl⟩⟩
  obtain ⟨filters', hfilters', _, hbeside⟩ := arrived_beside_of_create hcreate
  refine ⟨c, hbeside.wiring, ?_, ?_⟩
  · rcases (searched_of_create hcreate).1 with ⟨_, _, hsubjects⟩ | ⟨hquiet, _⟩
    · refine ((hall _ _ _ c hcreate).1 c.query ?_).page
      rw [hsubjects]
      exact List.mem_singleton.2 rfl
    · exact absurd hcarries hquiet
  · rw [hbeside.filters]
    exact arrived_slots hfilters' wiring _ _ _

theorem spec_eq_of_hasKey (hfilters : Filters.ofSpecs specs = .ok filters) {s t : FieldSpec}
    (hs : s ∈ specs) (ht : t ∈ specs) {key : String} (hks : s.hasKey key = true)
    (hkt : t.hasKey key = true) : s = t := by
  rw [← Filters.ofSpecs_specs hfilters] at hs ht
  obtain ⟨f, hf, rfl⟩ := List.mem_map.1 hs
  obtain ⟨g, hg, rfl⟩ := List.mem_map.1 ht
  rw [Filters.field_eq_of_hasKey hf hg hks hkt]

theorem get?_cons_of_ne {key other v : String} {rest : List (String × String)}
    (h : other ≠ key) :
    (Parameters.mk ((other, v) :: rest)).get? key = (Parameters.mk rest).get? key := by
  rw [Parameters.get?, List.find?_cons_of_neg (by simpa using h)]
  rfl

theorem parameterFor_cons_of_not_hasKey {spec : FieldSpec} {key v : String}
    {rest : List (String × String)} (h : spec.hasKey key = false) :
    Filters.parameterFor ⟨(key, v) :: rest⟩ spec = Filters.parameterFor ⟨rest⟩ spec := by
  rw [← Bool.not_eq_true, FieldSpec.hasKey_iff, FieldSpec.keys, List.mem_cons, not_or] at h
  rw [Filters.parameterFor, Filters.parameterFor, get?_cons_of_ne h.1]
  cases halias : spec.aliasKey with
  | none => rfl
  | some other =>
      have hne : key ≠ other := by simpa [halias] using h.2
      rw [Option.bind_some, Option.bind_some, get?_cons_of_ne hne]

theorem parameterFor_cons_name (spec : FieldSpec) (v : String) (rest : List (String × String)) :
    Filters.parameterFor ⟨(spec.name, v) :: rest⟩ spec = some v := by
  rw [Filters.parameterFor, Parameters.get?, List.find?_cons_of_pos (by simp)]
  rfl

/-- There is a page besides a given one that is not the default. -/
theorem exists_page (k : UInt32) (d : Option String) :
    ∃ n : UInt32, 1 ≤ n ∧ n ≠ k ∧ d ≠ some (toString n) := by
  have hinj {m n : UInt32} (hm : d = some (toString m)) (hn : d = some (toString n)) : m = n := by
    have hread := congrArg (Option.bind · Text.readUInt32) (hm.symm.trans hn)
    simpa [Text.readUInt32_toString] using hread
  by_contra hnone
  have hall (n : UInt32) (hn : 1 ≤ n) : n = k ∨ d = some (toString n) := by
    by_contra hneither
    rw [not_or] at hneither
    exact hnone ⟨n, hn, hneither.1, hneither.2⟩
  have hone := hall 1 (by decide)
  have htwo := hall 2 (by decide)
  have hthree := hall 3 (by decide)
  grind

theorem hasKey_eq_false (hfilters : Filters.ofSpecs specs = .ok filters) {s t : FieldSpec}
    (hs : s ∈ specs) (ht : t ∈ specs) (hne : s ≠ t) : s.hasKey t.name = false := by
  rw [← Bool.not_eq_true]
  exact fun hshared => hne (spec_eq_of_hasKey hfilters hs ht hshared t.hasKey_name)

/-- What an address says of a field with another name makes no difference to the
page that is asked for. -/
theorem exists_query_page (ι : Type) (hfilters : Filters.ofSpecs specs = .ok filters)
    {spec : FieldSpec} (hspec : spec ∈ specs) (hother : spec.name ≠ pageField)
    (rest : List (String × String)) :
    ∃ k, ∀ (c : Controller ι) v, (c.filters.slots = specs.map fun other =>
      (other, Text.normalize? (Filters.parameterFor ⟨(spec.name, v) :: rest⟩ other))) →
      c.query.page = k := by
  by_cases hnamed : ∃ named ∈ specs, named.name = pageField
  · obtain ⟨named, hmem, hname⟩ := hnamed
    have hapart : named.hasKey spec.name = false :=
      hasKey_eq_false hfilters hmem hspec fun hsame => hother (hsame ▸ hname)
    refine ⟨FieldState.askedPage
      ⟨named, Text.normalize? (Filters.parameterFor ⟨rest⟩ named), none⟩, fun c v hslots => ?_⟩
    rw [query_page_of_slots hslots hmem hname, parameterFor_cons_of_not_hasKey hapart]
  · exact ⟨1, fun c v hslots =>
      query_page_of_unnamed hslots fun named hmem hname => hnamed ⟨named, hmem, hname⟩⟩

/-- The field that plays the part of the page has its name. -/
theorem name_of_asksShownPage (hfilters : Filters.ofSpecs specs = .ok filters)
    (hwired : ∀ name ∈ wiring.wiredFields, filters.contains name = true)
    (hall : AsksShownPage ι wiring specs) {spec text : FieldSpec} (hspec : spec ∈ specs)
    (hkey : spec.hasKey wiring.pageField = true) (htext : text ∈ specs)
    (htextKey : text.hasKey wiring.textField = true) : spec.name = pageField := by
  by_contra hother
  -- The text to search for may be any that is not the default, a number as well.
  obtain ⟨m, _, _, hm⟩ := exists_page 0 text.defaultValue
  obtain ⟨k, hk⟩ := exists_query_page ι hfilters hspec hother [(text.name, toString m)]
  obtain ⟨n, hn, hne, hdefault⟩ := exists_page k spec.defaultValue
  have hgiven : Text.normalize? (Filters.parameterFor
      ⟨[(spec.name, toString n), (text.name, toString m)]⟩ spec) = some (toString n) := by
    rw [parameterFor_cons_name]
    exact Text.normalize_toString n
  have hcarries : CarriesQuery wiring specs
      ⟨[(spec.name, toString n), (text.name, toString m)]⟩ := by
    refine ⟨_, List.mem_cons_self, text, htext, htextKey, ?_⟩
    by_cases hsame : text = spec
    · subst hsame
      exact ⟨_, hgiven, hdefault⟩
    · rw [parameterFor_cons_of_not_hasKey (hasKey_eq_false hfilters htext hspec hsame),
        parameterFor_cons_name]
      exact ⟨_, Text.normalize_toString m, hm⟩
  obtain ⟨c, rfl, hpage, hslots⟩ := exists_opened hfilters hwired hall hcarries
  rw [hk c _ hslots, currentPage_of_slots hslots hspec hkey, hgiven] at hpage
  exact hne ((FieldState.shownPage_of_number spec n hn).symm.trans hpage.symm)

/-- A field that is not set by every search says the same page while it is unset. -/
theorem pagesAlike_of_asksShownPage (hfilters : Filters.ofSpecs specs = .ok filters)
    (hwired : ∀ name ∈ wiring.wiredFields, filters.contains name = true)
    (hall : AsksShownPage ι wiring specs) {spec needed : FieldSpec} (hspec : spec ∈ specs)
    (hname : spec.name = pageField) (hkey : spec.hasKey wiring.pageField = true) {name : String}
    (hneed : name ∈ wiring.neededFields) (hneeded : needed ∈ specs)
    (hneededKey : needed.hasKey name = true) (hother : spec.hasKey name = false) :
    spec.PagesAlike := by
  have hne : spec ≠ needed := by
    rintro rfl
    rw [hother] at hneededKey
    cases hneededKey
  obtain ⟨m, _, _, hm⟩ := exists_page 0 needed.defaultValue
  have hcarries : CarriesQuery wiring specs ⟨[(needed.name, toString m)]⟩ := by
    refine ⟨name, hneed, needed, hneeded, hneededKey, toString m, ?_, hm⟩
    rw [parameterFor_cons_name]
    exact Text.normalize_toString m
  obtain ⟨c, rfl, hpage, hslots⟩ := exists_opened hfilters hwired hall hcarries
  have hunset : Text.normalize? (Filters.parameterFor ⟨[(needed.name, toString m)]⟩ spec) =
      none := by
    rw [parameterFor_cons_of_not_hasKey (hasKey_eq_false hfilters hspec hneeded hne),
      Filters.parameterFor]
    cases spec.aliasKey with
    | none => rfl
    | some key => rfl
  rw [query_page_of_slots hslots hspec hname, currentPage_of_slots hslots hspec hkey,
    hunset] at hpage
  have hdefault : FieldState.atDefault ⟨spec, none, none⟩ = true := by
    simp [FieldState.atDefault, FieldSpec.isDefault, FieldSpec.effective]
  exact (FieldState.askedPage_of_atDefault hdefault).1 hpage

/-- Each query is for the page that is shown exactly if the declarations are
wired for it. -/
theorem asksShownPage_iff (hfilters : Filters.ofSpecs specs = .ok filters)
    (hwired : ∀ name ∈ wiring.wiredFields, filters.contains name = true) :
    AsksShownPage ι wiring specs ↔ PageWired wiring specs := by
  refine ⟨fun hall => ?_, asksShownPage_of_pageWired⟩
  have hdeclared (name : String) (hname : name ∈ wiring.wiredFields) :
      ∃ spec ∈ specs, spec.hasKey name = true := by
    rw [← Filters.ofSpecs_specs hfilters]
    exact Filters.contains_iff.1 (hwired name hname)
  obtain ⟨spec, hspec, hkey⟩ := hdeclared wiring.pageField (by simp [Wiring.wiredFields])
  obtain ⟨text, htext, htextKey⟩ := hdeclared wiring.textField (by simp [Wiring.wiredFields])
  have hname := name_of_asksShownPage hfilters hwired hall hspec hkey htext htextKey
  refine ⟨spec, hspec, hname, hkey, ?_⟩
  by_cases hall' : ∀ name ∈ wiring.neededFields, spec.hasKey name = true
  · exact .inl hall'
  · obtain ⟨name, hneed, hother⟩ : ∃ name ∈ wiring.neededFields, ¬ spec.hasKey name = true := by
      simpa using hall'
    obtain ⟨needed, hneeded, hneededKey⟩ := hdeclared name (needed_wired hneed)
    exact .inr (pagesAlike_of_asksShownPage hfilters hwired hall hspec hname hkey hneed hneeded
      hneededKey (eq_false_of_ne_true hother))

end Opened

/-! ## The standard fields -/

theorem standardFields_pageWired (settings : Settings) :
    PageWired (.ofSettings settings) standardFields := by
  have hkey : standardFields[1].hasKey pageField = true := by decide +kernel
  refine ⟨standardFields[1], by decide, rfl, hkey, .inr fun d hd => ?_⟩
  obtain rfl : d = "1" := (Option.some.inj hd).symm
  decide +kernel

/-- With the standard fields the page asked for is the page shown. -/
theorem standardFields_askShownPage :
    ∃ filters, Filters.ofSpecs standardFields = .ok filters ∧
      (∀ name ∈ (Wiring.ofSettings .default).wiredFields, filters.contains name = true) ∧
      AsksShownPage Unit (.ofSettings .default) standardFields := by
  obtain ⟨filters, hfilters, hwired⟩ := standardFields_accepted .default
  exact ⟨filters, hfilters, hwired,
    (asksShownPage_iff hfilters hwired).2 (standardFields_pageWired .default)⟩

/-- The page under a name of its own. -/
def shortFields : List FieldSpec :=
  [FieldSpec.named textField,
   { FieldSpec.named "p" with hidden := true, defaultValue := some "1" },
   FieldSpec.named credentialTypeField, FieldSpec.named categoryField]

/-- The second page is shown, and the first one asked for. -/
theorem not_asked_of_shortFields :
    ∃ c : Controller Unit,
      create { Wiring.default with pageField := "p" } shortFields (.ofSource fun _ _ => .hold)
        (.ofSource fun _ _ => .hold) (.ofUrl "/search?q=a&p=2") = .ok c ∧
      c.searches.subjects = [c.query] ∧ c.currentPage = 2 ∧ c.query.page = 1 ∧
      ¬ c.Asked c.query := by
  obtain ⟨c, hcreate, hcheck⟩ := exists_ok_of_check
    (create { Wiring.default with pageField := "p" } shortFields (.ofSource fun _ _ => .hold)
      (.ofSource fun _ _ => .hold) (.ofUrl "/search?q=a&p=2"))
    (fun c : Controller Unit => decide (c.searches.subjects = [c.query] ∧ c.currentPage = 2 ∧
      c.query.page = 1))
    (by decide +kernel)
  obtain ⟨hsubjects, hshown, hasked⟩ := of_decide_eq_true hcheck
  refine ⟨c, hcreate, hsubjects, hshown, hasked, fun h => ?_⟩
  have hpage := h.page
  rw [hshown, hasked] at hpage
  exact absurd hpage (by decide)

end Controller

end RecordSearch
