import RecordSearch.Fixture
import RecordSearch.Proofs.Filters.KeyIndex
import RecordSearch.Proofs.Paging

/-!
# What a fixture looks at

A fixture reads five values of a query, the page and the page size. Four of the
values it compares as they are. The fifth is the archive toggle, of which only
the state counts: a toggle that is left out, or cannot be read, is the one for
current records. So queries may differ and still get the same page, and it is
this freedom that lets a query leave a suppressed default out.

The filters decide what is left out, the fixture what an absent value means, and
neither knows of the other. They agree on the standard fields because each
reader of the fixture takes nothing for the default: the page and the toggle
read both alike, and the other fields have no default to leave out.
-/

namespace RecordSearch

/-- The state of the archive toggle in a query. -/
def Query.toggle (q : Query) : ArchiveToggle :=
  ((q.get? inactiveField).bind ArchiveToggle.parse).getD .current

/-- What a fixture looks at is the same in both queries. -/
structure Query.SameSearch (q r : Query) : Prop where
  text : q.get? textField = r.get? textField
  issuer : q.get? issuerField = r.get? issuerField
  kind : q.get? credentialTypeField = r.get? credentialTypeField
  category : q.get? categoryField = r.get? categoryField
  toggle : q.toggle = r.toggle
  page : q.page = r.page
  pageSize : q.pageSize = r.pageSize

variable {q r : Query}

theorem Credential.answers_congr (h : q.SameSearch r) (record : Credential) :
    record.answers q = record.answers r := by
  have htoggle : record.matchesInactive q = record.matchesInactive r :=
    congrArg (ArchiveToggle.admits · record.inactive) h.toggle
  rw [answers, answers, htoggle, matchesText, matchesText, matchesCategory, matchesCategory,
    h.text, h.issuer, h.kind, h.category]

theorem Fixture.search_congr (data : Fixture) (h : q.SameSearch r) :
    data.search q = data.search r := by
  have hmatching : data.matching q = data.matching r :=
    List.filter_congr fun record _ => record.answers_congr h
  have hoffset : q.offset = r.offset := by rw [Query.offset, Query.offset, h.page, h.pageSize]
  rw [search, search, hmatching, hoffset, h.page, h.pageSize]

namespace FieldState

/-- Whoever takes nothing for the default cannot tell that it was left out. -/
theorem read_queryEntry {β : Type} {field : FieldState} (read : Option String → β)
    (h : read none = read field.spec.defaultValue) :
    read (field.queryEntry.map (·.2)) = read field.effective := by
  rw [queryEntry]
  cases heff : field.effective with
  | none => rfl
  | some v =>
      dsimp only
      split
      · next hleft =>
          rw [Bool.and_eq_true, atDefault, FieldSpec.isDefault, ← effective, heff,
            beq_iff_eq] at hleft
          rw [hleft.2]
          exact h
      · rfl

/-- Without a default, a query has the value of a field as it is. -/
theorem queryEntry_of_no_default {field : FieldState} (h : field.spec.defaultValue = none) :
    field.queryEntry.map (·.2) = field.value := by
  have heff : field.effective = field.value := by
    rw [effective, FieldSpec.effective, h, Option.or_none]
  exact (read_queryEntry id h.symm).trans heff

/-- A toggle that is left out at its default means the same as if it were there. -/
theorem toggle_queryEntry {field : FieldState}
    (h : field.spec.defaultValue = some ArchiveToggle.current.keyword) :
    ((field.queryEntry.map (·.2)).bind ArchiveToggle.parse).getD .current =
      (field.effective.bind ArchiveToggle.parse).getD .current := by
  refine read_queryEntry (fun text => (text.bind ArchiveToggle.parse).getD .current) ?_
  rw [h]
  decide +kernel

end FieldState

/-! ## Leaving defaults out -/

/-- The values in effect under the names of all fields, defaults and all. -/
def Filters.fullValues (fs : Filters) : Values :=
  .ofList (fs.specs.filterMap fun spec => (fs.value? spec.name).map (spec.name, ·))

/-- The standard fields, of which some keep their defaults in queries. -/
def standardFieldsKeeping (kept : String → Bool) : List FieldSpec :=
  standardFields.map fun spec =>
    if kept spec.name then { spec with suppressDefault := false } else spec

namespace Filters

variable {fs : Filters} {kept : String → Bool}

theorem get?_fullValues {field : FieldState} (h : field ∈ fs.fields) :
    fs.fullValues.get? field.spec.name = field.effective := by
  have hmem : field.spec ∈ fs.specs := List.mem_map_of_mem h
  rw [fullValues, ← value?_name h]
  exact KeyMap.get?_ofList_filterMap hmem fun spec _ hname => congrArg fs.value? hname

theorem ofSpecs_standardFieldsKeeping (kept : String → Bool) :
    ∃ start, ofSpecs (standardFieldsKeeping kept) = .ok start := by
  have hkeys : (standardFieldsKeeping kept).flatMap FieldSpec.keys =
      standardFields.flatMap FieldSpec.keys := by
    rw [standardFieldsKeeping, List.flatMap_map]
    congr 1
    funext spec
    split
    · rfl
    · rfl
  have hnodup : (standardFields.flatMap FieldSpec.keys).Nodup := by decide +kernel
  rcases ofSpecs_cases (standardFieldsKeeping kept) with ⟨key, _, hrepeat, _⟩ | ⟨_, _, hstart⟩
  · rw [hkeys] at hrepeat
    exact absurd hnodup hrepeat.not_nodup
  · exact hstart

theorem exists_field_of_standardFieldsKeeping (h : fs.specs = standardFieldsKeeping kept)
    {spec : FieldSpec} (hspec : spec ∈ standardFields) :
    ∃ field ∈ fs.fields, field.spec.name = spec.name ∧
      field.spec.defaultValue = spec.defaultValue := by
  have hmem : (if kept spec.name then { spec with suppressDefault := false } else spec) ∈
      fs.specs := by
    rw [h, standardFieldsKeeping]
    exact List.mem_map_of_mem hspec
  obtain ⟨field, hfield, heq⟩ := List.mem_map.1 hmem
  refine ⟨field, hfield, ?_⟩
  rw [heq]
  split
  · exact ⟨rfl, rfl⟩
  · exact ⟨rfl, rfl⟩

theorem read_values (h : fs.specs = standardFieldsKeeping kept) (spec : FieldSpec)
    (hspec : spec ∈ standardFields) {β : Type} (read : Option String → β)
    (hread : read none = read spec.defaultValue) :
    read (fs.values.get? spec.name) = read (fs.fullValues.get? spec.name) := by
  obtain ⟨field, hfield, hname, hdefault⟩ := exists_field_of_standardFieldsKeeping h hspec
  rw [← hname, get?_values hfield, get?_fullValues hfield]
  exact FieldState.read_queryEntry read (by rw [hdefault, hread])

theorem sameSearch_values (h : fs.specs = standardFieldsKeeping kept) (pageSize : UInt32) :
    Query.SameSearch ⟨fs.values, pageSize⟩ ⟨fs.fullValues, pageSize⟩ where
  text := read_values h standardFields[0] (by decide) id rfl
  issuer := read_values h standardFields[2] (by decide) id rfl
  kind := read_values h standardFields[3] (by decide) id rfl
  category := read_values h standardFields[4] (by decide) id rfl
  toggle := read_values h standardFields[5] (by decide)
    (fun text => (text.bind ArchiveToggle.parse).getD .current) (by decide +kernel)
  page := read_values h standardFields[1] (by decide) pageNumber (by decide +kernel)
  pageSize := rfl

/-- Whatever has been done to the standard fields, and whichever of them keep their
defaults in queries, a fixture finds for a query what it finds if nothing is left out. -/
theorem search_values (kept : String → Bool) :
    ∃ start, ofSpecs (standardFieldsKeeping kept) = .ok start ∧
      ∀ (actions : List Action) (data : Fixture) (pageSize : UInt32),
        data.search ⟨(start.run actions).values, pageSize⟩ =
          data.search ⟨(start.run actions).fullValues, pageSize⟩ := by
  obtain ⟨start, hstart⟩ := ofSpecs_standardFieldsKeeping kept
  refine ⟨start, hstart, fun actions data pageSize => data.search_congr ?_⟩
  exact sameSearch_values ((run_specs start actions).trans (ofSpecs_specs hstart)) pageSize

/-- Two of the untouched fields have a default, and a query has none of their values. -/
example :
    (match ofSpecs standardFields with
      | .ok start => decide (start.values = .empty ∧
          start.fullValues = .ofList [(inactiveField, "false"), (pageField, "1")])
      | .error _ => false) = true := by
  decide +kernel

end Filters

end RecordSearch
