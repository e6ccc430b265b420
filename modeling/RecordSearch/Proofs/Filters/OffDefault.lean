import RecordSearch.Proofs.Filters.Address

/-!
# Off the default

Whether a field was moved can be seen in three ways: by asking for it, by comparing
the value in effect with the default, and by looking for the name of the field among
the parameters. The first looks at the stored value, the second at the value in effect,
and the third at every field, since a name could be there because of another.

They agree for any declarations, also for a default that nobody could enter because
it is blank or has blanks around it: such a default is compared as it is. What is
stored is another matter. It was always trimmed, so entering the untrimmed default
moves the field.
-/

namespace RecordSearch

namespace Filters

variable {fs : Filters} {key : String} {field : FieldState}

/-- A field is moved if its value in effect is not its default. -/
theorem isMoved_iff_value?_ne (h : fs.field? key = some field) :
    fs.isMoved key = true ↔ fs.value? key ≠ field.spec.defaultValue := by
  rw [isMoved, value?, h]
  dsimp only
  rw [Option.bind_some, FieldState.isMoved_eq, Bool.not_eq_true', Ne, ← FieldState.atDefault_iff,
    Bool.not_eq_true]

theorem isMoved_name (h : fs.field? key = some field) :
    fs.isMoved field.spec.name = fs.isMoved key := by
  rw [isMoved, isMoved, field?_name (field?_eq_some_iff.1 h).1, h]

/-- A field is moved if its name is among the parameters. -/
theorem isMoved_iff_mem_parameters (h : fs.field? key = some field) :
    fs.isMoved key = true ↔ field.spec.name ∈ fs.parameters.keys := by
  have hfield := (field?_eq_some_iff.1 h).1
  rw [← isMoved_name h, isMoved_iff_value?_ne (field?_name hfield), parameters_keys, List.mem_map]
  constructor
  · intro hdiffers
    exact ⟨field.spec, List.mem_filter.2 ⟨List.mem_map_of_mem hfield, decide_eq_true hdiffers⟩, rfl⟩
  · rintro ⟨spec, hspec, hname⟩
    -- No other field has the name, so it is there because of this one.
    obtain ⟨hmem, hdiffers⟩ := List.mem_filter.1 hspec
    obtain ⟨other, hother, rfl⟩ := List.mem_map.1 hmem
    obtain rfl : other = field :=
      field_eq_of_hasKey hother hfield other.spec.hasKey_name (hname ▸ field.spec.hasKey_name)
    exact of_decide_eq_true hdiffers

/-- Whatever is done to filters, a stored value is what it is normalized to, and a field
that a key addresses was moved if its value is not the default, which is also when its name
is among the parameters. -/
theorem run_isMoved_iff {specs : List FieldSpec} {start : Filters}
    (hstart : ofSpecs specs = .ok start) (actions : List Action) :
    (∀ field ∈ (start.run actions).fields, ∀ v, field.value = some v →
      Text.normalize v = some v ∧ v ≠ "" ∧
        (∀ c ∈ v.toList.head?, Text.isBlank c = false) ∧
        ∀ c ∈ v.toList.getLast?, Text.isBlank c = false) ∧
    ∀ key, (start.run actions).contains key = true →
      ∃ spec ∈ specs, (start.run actions).spec? key = some spec ∧
        ((start.run actions).isMoved key = true ↔
          (start.run actions).value? key ≠ spec.defaultValue) ∧
        ((start.run actions).isMoved key = true ↔
          spec.name ∈ (start.run actions).parameters.keys) := by
  refine ⟨?_, ?_⟩
  · intro field hfield v hv
    have hnormal := run_normal (ofSpecs_normal hstart) actions field hfield v hv
    exact ⟨hnormal, Text.normalize_eq_self_iff.1 hnormal⟩
  · intro key hkey
    obtain ⟨field, hfield⟩ := exists_field_of_contains hkey
    refine ⟨field.spec, ?_, by rw [spec?, hfield, Option.map_some], isMoved_iff_value?_ne hfield,
      isMoved_iff_mem_parameters hfield⟩
    have hspecs := (run_specs start actions).trans (ofSpecs_specs hstart)
    rw [← hspecs]
    exact List.mem_map_of_mem (field?_eq_some_iff.1 hfield).1

/-- Fields with a blank default and with one that has blanks around it. -/
def blankDefaults : List FieldSpec :=
  [{ FieldSpec.named "q" with aliasKey := some "query", defaultValue := some "" },
   { FieldSpec.named "sort" with defaultValue := some " name " }]

/-- The text is entered with white space around it, and the order as its default says. -/
def enteredWithBlanks : List Action :=
  [.assign [("query", some "\u00a0acme corp\t"), ("sort", some " name ")] .user]

/-- Both are off their defaults then, the order as well. -/
theorem run_isMoved_iff_blankDefaults :
    ∃ start, ofSpecs blankDefaults = .ok start ∧
      (start.run enteredWithBlanks).contains "query" = true ∧
      (start.run enteredWithBlanks).value? "query" = some "acme corp" ∧
      (start.run enteredWithBlanks).isMoved "query" = true ∧
      (start.run enteredWithBlanks).contains "sort" = true ∧
      (start.run enteredWithBlanks).value? "sort" = some "name" ∧
      (start.run enteredWithBlanks).isMoved "sort" = true ∧
      ∃ spec ∈ blankDefaults, (start.run enteredWithBlanks).spec? "query" = some spec ∧
        spec.name ∈ (start.run enteredWithBlanks).parameters.keys := by
  obtain ⟨start, hstart, hcheck⟩ := exists_ok_of_check (ofSpecs blankDefaults)
    (fun start => decide ((start.run enteredWithBlanks).contains "query" = true ∧
      (start.run enteredWithBlanks).value? "query" = some "acme corp" ∧
      (start.run enteredWithBlanks).isMoved "query" = true ∧
      (start.run enteredWithBlanks).contains "sort" = true ∧
      (start.run enteredWithBlanks).value? "sort" = some "name" ∧
      (start.run enteredWithBlanks).isMoved "sort" = true))
    (by decide +kernel)
  obtain ⟨hquery, hvalue, hmoved, hsort⟩ := of_decide_eq_true hcheck
  obtain ⟨spec, hspec, haddressed, _, hkeys⟩ :=
    (run_isMoved_iff hstart enteredWithBlanks).2 "query" hquery
  exact ⟨start, hstart, hquery, hvalue, hmoved, hsort.1, hsort.2.1, hsort.2.2, spec, hspec,
    haddressed, hkeys.1 hmoved⟩

end Filters

end RecordSearch
