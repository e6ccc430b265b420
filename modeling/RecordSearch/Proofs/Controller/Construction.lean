import RecordSearch.Proofs.Controller.SearchGate
import RecordSearch.Proofs.Filters.KeyIndex
import RecordSearch.Proofs.Filters.Updates

/-!
# When a controller can be built

Construction fails for two reasons, and both are in the declarations: a key that
repeats, and a part of the wiring that is given to no field. What comes after
these checks could be refused as well, if one looks at the moves one by one,
since closed filters take no values and a search for nothing is turned down.
That neither happens here, for any declarations and any address, is what makes
the two reasons the only ones.

A controller that is built has asked once for the choices known beforehand. It
has taken its values from the address and left the address alone, it is engaged
if one of these values can be seen in the form, and it has begun a search if
they make one.
-/

namespace RecordSearch

/-- Some field is declared under the key. -/
def Declared (specs : List FieldSpec) (key : String) : Prop :=
  ∃ spec ∈ specs, spec.hasKey key = true

/-- The first part that is given to no field. -/
def FirstUnwired (wiring : Wiring) (specs : List FieldSpec) (name : String) : Prop :=
  ∃ before after, wiring.wiredFields = before ++ name :: after ∧
    (∀ known ∈ before, Declared specs known) ∧ ¬Declared specs name

namespace Filters

variable {fs : Filters} {specs : List FieldSpec}

theorem contains_iff_declared (h : ofSpecs specs = .ok fs) {key : String} :
    fs.contains key = true ↔ Declared specs key := by
  rw [contains_iff, ofSpecs_specs h, Declared]

end Filters

namespace Controller

variable {ι : Type}

/-- A construction fails with an error, and nothing was asked for at either desk. -/
def Declines (result : Except (Refusal ι) (Controller ι)) (error : SearchError)
    (searches : Desk Query (PageAnswer ι)) (preloads : Desk Query (PageAnswer Choice)) : Prop :=
  ∃ refusal, result = .error refusal ∧ refusal.error = error ∧
    refusal.searches.filed = searches.filed ∧ refusal.preloads.filed = preloads.filed

/-- A controller that has just been built, over filters that were just declared. -/
structure Built (wiring : Wiring) (fresh : Filters)
    (searches : Desk Query (PageAnswer ι)) (preloads : Desk Query (PageAnswer Choice))
    (bar : AddressBar) (c : Controller ι) : Prop where
  wired : c.wiring = wiring
  addressBar : c.addressBar = bar
  /-- The choices known beforehand are asked for, once. -/
  preloaded : c.preloads.subjects = preloads.subjects ++ [⟨.empty, preloadPageSize⟩]
  preloadFlight : c.preloadFlight = some preloads.size
  /-- The values are those that the address gives. -/
  fields : c.filters.fields = (fresh.readParameters bar.current .address).2.fields
  given : List.Forall₂ (fun spec field => field.spec = spec ∧ spec.Given bar.current field.value)
    fresh.specs c.filters.fields
  /-- The form shows the values, and the bar is known to show them. -/
  controls : c.form.controls = (Form.empty.refill c.filters).controls
  knownParameters : c.knownParameters = c.filters.parameters
  engaged : c.engaged = true ↔
    ∃ field ∈ c.filters.fields, field.spec.hidden = false ∧
      field.effective ≠ field.spec.defaultValue
  searching : (∃ name ∈ wiring.neededFields, c.filters.isMoved name = true) →
    c.searches.subjects = searches.subjects ++ [⟨c.filters.values, wiring.pageSize⟩] ∧
      c.flight = some ⟨searches.size, ⟨c.filters.values, wiring.pageSize⟩⟩ ∧
      c.phase = .searching
  ready : (∀ name ∈ wiring.neededFields, c.filters.isMoved name = false) →
    c.searches = searches ∧ c.flight = none ∧ c.phase = .ready
  /-- Nothing has come of anything yet. -/
  shown : c.results = none ∧ c.lastError = none ∧ c.turnedDown = false

/-- A controller is engaged from the beginning by what its form shows. -/
theorem showsFilter_iff {c : Controller ι} : c.showsFilter = true ↔
    ∃ field ∈ c.filters.fields, field.spec.hidden = false ∧
      field.effective ≠ field.spec.defaultValue := by
  have hmoved {field : FieldState} (hfield : field ∈ c.filters.fields) :
      c.filters.isMoved field.spec.name = true ↔ field.effective ≠ field.spec.defaultValue := by
    rw [Filters.isMoved, Filters.field?_name hfield]
    dsimp only
    rw [FieldState.isMoved_eq, FieldState.atDefault, FieldSpec.isDefault, ← FieldState.effective]
    simp
  rw [showsFilter, List.any_eq_true]
  constructor
  · rintro ⟨spec, hspec, hoff⟩
    obtain ⟨hdeclared, hvisible⟩ := List.mem_filter.1 hspec
    obtain ⟨field, hfield, rfl⟩ := List.mem_map.1 hdeclared
    exact ⟨field, hfield, by simpa using hvisible, (hmoved hfield).1 hoff⟩
  · rintro ⟨field, hfield, hvisible, hoff⟩
    refine ⟨field.spec, List.mem_filter.2 ⟨List.mem_map_of_mem hfield, by simp [hvisible]⟩, ?_⟩
    exact (hmoved hfield).2 hoff

variable {wiring : Wiring} {specs : List FieldSpec} {fresh : Filters}
  {searches : Desk Query (PageAnswer ι)} {preloads : Desk Query (PageAnswer Choice)}
  {bar : AddressBar}

/-! ## Failing -/

theorem create_of_repeat {key : String}
    (h : Filters.ofSpecs specs = .error (.duplicateField key)) :
    Declines (create wiring specs searches preloads bar) (.duplicateField key) searches
      preloads := by
  rw [create, h]
  exact ⟨_, rfl, rfl, rfl, rfl⟩

theorem create_of_unwired (hfresh : Filters.ofSpecs specs = .ok fresh) {name : String}
    (h : wiring.wiredFields.find? (fun name => !fresh.contains name) = some name) :
    Declines (create wiring specs searches preloads bar) (.unknownField name) searches
      preloads := by
  have hlaunch : (blank wiring fresh searches preloads bar).launch =
      (.error (.unknownField name), blank wiring fresh searches preloads bar) :=
    launch_of_missing h
  rw [create, hfresh]
  dsimp only
  rw [hlaunch]
  exact ⟨_, rfl, rfl, rfl, rfl⟩

/-! ## Succeeding -/

theorem arrived_fields (hfresh : Filters.ofSpecs specs = .ok fresh) :
    (arrived wiring fresh searches preloads bar).filters.fields =
      (fresh.readParameters bar.current .address).2.fields := by
  rw [Filters.readParameters_fields (Filters.ofSpecs_isClosed hfresh)]
  exact Filters.readParameters_fields (blank_isClosed hfresh wiring searches preloads bar)
    bar.current .address

theorem started_of_query (h : (arrived wiring fresh searches preloads bar).canSearch = true) :
    started wiring fresh searches preloads bar =
      { arrived wiring fresh searches preloads bar with
        searches := searches.file (arrived wiring fresh searches preloads bar).query
        flight := some ⟨searches.size, (arrived wiring fresh searches preloads bar).query⟩
        phase := .searching } := by
  rw [started, if_pos h, beginSearch_of_canSearch h]
  rfl

theorem started_of_no_query
    (h : (arrived wiring fresh searches preloads bar).canSearch = false) :
    started wiring fresh searches preloads bar = arrived wiring fresh searches preloads bar := by
  rw [started, h, if_neg Bool.false_ne_true]

theorem started_built (hfresh : Filters.ofSpecs specs = .ok fresh) :
    Built wiring fresh searches preloads bar (started wiring fresh searches preloads bar) := by
  have hfields : (arrived wiring fresh searches preloads bar).filters.fields =
      (fresh.readParameters bar.current .address).2.fields := arrived_fields hfresh
  have hgiven := (Filters.replaced_readParameters (Filters.ofSpecs_isClosed hfresh) bar.current
    .address).fields
  rw [← hfields] at hgiven
  have hpreloaded := Desk.file_subjects preloads ⟨.empty, preloadPageSize⟩
  cases hcan : (arrived wiring fresh searches preloads bar).canSearch with
  | true =>
      rw [started_of_query hcan]
      refine ⟨rfl, rfl, hpreloaded, rfl, hfields, hgiven, rfl, rfl, showsFilter_iff, fun _ => ?_,
        fun hready => ?_, rfl, rfl, rfl⟩
      · exact ⟨Desk.file_subjects _ _, rfl, rfl⟩
      · obtain ⟨name, hname, hmoved⟩ := List.any_eq_true.1 hcan
        exact absurd (hmoved.symm.trans (hready name hname)) Bool.noConfusion
  | false =>
      rw [started_of_no_query hcan]
      refine ⟨rfl, rfl, hpreloaded, rfl, hfields, hgiven, rfl, rfl, showsFilter_iff, ?_,
        fun _ => ⟨rfl, rfl, rfl⟩, rfl, rfl, rfl⟩
      rintro ⟨name, hname, hmoved⟩
      exact absurd hmoved (List.any_eq_false.1 hcan name hname)

/-- Declarations and wiring decide whether a controller can be built, and the
address what it begins with. -/
theorem create_decided (wiring : Wiring) (specs : List FieldSpec)
    (searches : Desk Query (PageAnswer ι)) (preloads : Desk Query (PageAnswer Choice))
    (bar : AddressBar) :
    (¬(specs.flatMap FieldSpec.keys).Nodup ∧
      ∃ key, FirstRepeat (specs.flatMap FieldSpec.keys) key ∧
        Declines (create wiring specs searches preloads bar) (.duplicateField key) searches
          preloads) ∨
    ((specs.flatMap FieldSpec.keys).Nodup ∧
      ∃ name, FirstUnwired wiring specs name ∧
        Declines (create wiring specs searches preloads bar) (.unknownField name) searches
          preloads) ∨
    ((specs.flatMap FieldSpec.keys).Nodup ∧ (∀ name ∈ wiring.wiredFields, Declared specs name) ∧
      ∃ fresh c, Filters.ofSpecs specs = .ok fresh ∧
        create wiring specs searches preloads bar = .ok c ∧
        Built wiring fresh searches preloads bar c) := by
  rcases Filters.ofSpecs_cases specs with
    ⟨key, _, hrepeat, hspecs⟩ | ⟨_, hnodup, fresh, hfresh⟩
  · exact .inl ⟨hrepeat.not_nodup, key, hrepeat, create_of_repeat hspecs⟩
  · refine .inr ?_
    cases hfind : wiring.wiredFields.find? fun name => !fresh.contains name with
    | some name =>
        obtain ⟨hunknown, before, after, hsplit, hbefore⟩ :=
          List.find?_eq_some_iff_append.1 hfind
        refine .inl ⟨hnodup, name, ⟨before, after, hsplit, fun known hknown => ?_, ?_⟩,
          create_of_unwired hfresh hfind⟩
        · exact (Filters.contains_iff_declared hfresh).1 (by simpa using hbefore known hknown)
        · rw [← Filters.contains_iff_declared hfresh]
          simpa using hunknown
    | none =>
        have hwired : ∀ name ∈ wiring.wiredFields, fresh.contains name = true := by
          simpa using List.find?_eq_none.1 hfind
        exact .inr ⟨hnodup, fun name hname => (Filters.contains_iff_declared hfresh).1
            (hwired name hname), fresh, _, hfresh,
          create_eq_ok_iff.2 ⟨fresh, hfresh, hwired, rfl⟩, started_built hfresh⟩

/-- A category without a field is found before anything is asked for. -/
example :
    (match (create { Wiring.default with categoryField := "missing" } standardFields
        (.ofSource fun _ _ => .hold) (.ofSource fun _ _ => .hold) (.ofUrl "/search?q=a") :
          Except (Refusal Unit) (Controller Unit)) with
      | .error refusal =>
        decide (refusal.error = .unknownField "missing" ∧ refusal.preloads.size = 0)
      | .ok _ => false) = true := by
  decide +kernel

end Controller

end RecordSearch
