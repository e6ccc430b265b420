import RecordSearch.Filters

/-!
# One key, one field

The type of filters says that no key stands in two places of the list of all
keys. Here that becomes what everything else uses: a key that addresses two
declared fields addresses one field, looking a key up finds the field that it
addresses, and a field's own name finds the field.
-/

namespace RecordSearch

theorem FieldSpec.hasKey_iff {spec : FieldSpec} {key : String} :
    spec.hasKey key = true ↔ key ∈ spec.keys := by
  rw [hasKey, keys, Bool.or_eq_true, beq_iff_eq, beq_iff_eq, List.mem_cons,
    Option.mem_toList, eq_comm]

@[simp] theorem FieldSpec.hasKey_name (spec : FieldSpec) : spec.hasKey spec.name = true := by
  simp [hasKey]

namespace Filters

/-- Fields that share a key stand in one place. -/
theorem position_eq_of_hasKey {fs : Filters} {i j : Nat} {f g : FieldState}
    (hf : fs.fields[i]? = some f) (hg : fs.fields[j]? = some g) {key : String}
    (hkf : f.spec.hasKey key = true) (hkg : g.spec.hasKey key = true) : i = j := by
  have hapart := List.pairwise_iff_getElem.1 (List.pairwise_flatMap.1 fs.keys_nodup).2
  obtain ⟨hi, rfl⟩ := List.getElem?_eq_some_iff.1 hf
  obtain ⟨hj, rfl⟩ := List.getElem?_eq_some_iff.1 hg
  rw [FieldSpec.hasKey_iff] at hkf hkg
  rcases Nat.lt_trichotomy i j with hlt | heq | hgt
  · exact absurd rfl (hapart i j hi hj hlt key hkf key hkg)
  · exact heq
  · exact absurd rfl (hapart j i hj hi hgt key hkg key hkf)

/-- Two fields that share a key are the same field. -/
theorem field_eq_of_hasKey {fs : Filters} {f g : FieldState} (hf : f ∈ fs.fields)
    (hg : g ∈ fs.fields) {key : String} (hkf : f.spec.hasKey key = true)
    (hkg : g.spec.hasKey key = true) : f = g := by
  obtain ⟨i, hi⟩ := List.getElem?_of_mem hf
  obtain ⟨j, hj⟩ := List.getElem?_of_mem hg
  obtain rfl := position_eq_of_hasKey hi hj hkf hkg
  exact Option.some.inj (hi.symm.trans hj)

theorem field?_eq_some_iff {fs : Filters} {key : String} {field : FieldState} :
    fs.field? key = some field ↔ field ∈ fs.fields ∧ field.spec.hasKey key = true := by
  constructor
  · intro h
    rw [field?] at h
    exact ⟨List.mem_of_find?_eq_some h, by simpa using List.find?_some h⟩
  · rintro ⟨hmem, hkey⟩
    cases hfind : fs.field? key with
    | none =>
        rw [field?, List.find?_eq_none] at hfind
        exact absurd hkey (hfind field hmem)
    | some found =>
        rw [field?] at hfind
        have hfound := List.mem_of_find?_eq_some hfind
        have hfoundKey : found.spec.hasKey key = true := by
          simpa using List.find?_some hfind
        rw [field_eq_of_hasKey hfound hmem hfoundKey hkey]

theorem field?_name {fs : Filters} {field : FieldState} (h : field ∈ fs.fields) :
    fs.field? field.spec.name = some field :=
  field?_eq_some_iff.2 ⟨h, field.spec.hasKey_name⟩

theorem contains_iff {fs : Filters} {key : String} :
    fs.contains key = true ↔ ∃ spec ∈ fs.specs, spec.hasKey key = true := by
  rw [contains, specs, List.any_eq_true]
  constructor
  · rintro ⟨field, hfield, hkey⟩
    exact ⟨field.spec, List.mem_map_of_mem hfield, hkey⟩
  · rintro ⟨spec, hspec, hkey⟩
    obtain ⟨field, hfield, rfl⟩ := List.mem_map.1 hspec
    exact ⟨field, hfield, hkey⟩

theorem contains_name {fs : Filters} {spec : FieldSpec} (h : spec ∈ fs.specs) :
    fs.contains spec.name = true :=
  contains_iff.2 ⟨spec, h, spec.hasKey_name⟩

theorem exists_field_of_contains {fs : Filters} {key : String} (h : fs.contains key = true) :
    ∃ field, fs.field? key = some field := by
  obtain ⟨spec, hspec, hkey⟩ := contains_iff.1 h
  obtain ⟨field, hfield, rfl⟩ := List.mem_map.1 hspec
  exact ⟨field, field?_eq_some_iff.2 ⟨hfield, hkey⟩⟩

theorem contains_eq_of_specs {fs gs : Filters} (h : fs.specs = gs.specs) (key : String) :
    fs.contains key = gs.contains key := by
  rw [Bool.eq_iff_iff, contains_iff, contains_iff, h]

/-- The names of the fields are distinct. -/
theorem names_nodup (fs : Filters) : (fs.fields.map (·.spec.name)).Nodup := by
  rw [List.nodup_iff_pairwise_ne, List.pairwise_map]
  refine (List.pairwise_flatMap.1 fs.keys_nodup).2.imp ?_
  intro f g hapart
  exact hapart _ List.mem_cons_self _ List.mem_cons_self

/-- The alias of a field is no field's name. -/
theorem name_ne_alias {fs : Filters} {f g : FieldState} (hf : f ∈ fs.fields)
    (hg : g ∈ fs.fields) {key : String} (hkey : g.spec.aliasKey = some key) :
    f.spec.name ≠ key := by
  rintro rfl
  have hshared : g.spec.hasKey f.spec.name = true := by simp [FieldSpec.hasKey, hkey]
  obtain rfl := field_eq_of_hasKey hf hg f.spec.hasKey_name hshared
  have hnodup := (List.pairwise_flatMap.1 fs.keys_nodup).1 f hf
  rw [FieldState.keys, FieldSpec.keys, hkey] at hnodup
  simp at hnodup

end Filters

end RecordSearch
