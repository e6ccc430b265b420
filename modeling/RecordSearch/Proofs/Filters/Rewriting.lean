import RecordSearch.Proofs.Filters.Address

/-!
# What the filters write into an address

The bar belongs to the whole page, and other parts of it keep parameters there
too. So when the filters write to the bar, they have to settle every key that
addresses one of their fields, whatever was there before and however often, and
must not so much as move the others. Both come from the keys of the patch: they
are the keys of all fields, and no key is among them twice, so no entry of the
patch undoes another.
-/

namespace RecordSearch.Filters

/-- The second bar is the first after the filters were written into it: their
fields are there as they stand, nothing else was touched, and nothing is left to
write or to read. -/
structure Rewritten (specs : List FieldSpec) (fs : Filters) (bar after : AddressBar) : Prop where
  /-- Pairs that address no field are the same ones in the same order. -/
  others : after.current.pairs.filter (fun pair => pair.1 ∉ specs.flatMap FieldSpec.keys) =
    bar.current.pairs.filter fun pair => pair.1 ∉ specs.flatMap FieldSpec.keys
  aliases : ∀ spec ∈ specs, ∀ key, spec.aliasKey = some key → key ∉ after.current.keys
  /-- A field off its default has one pair, with its value in effect. -/
  moved : ∀ spec ∈ specs, fs.value? spec.name ≠ spec.defaultValue →
    ∃ v, fs.value? spec.name = some v ∧
      after.current.occurrences spec.name = [(spec.name, v)]
  unmoved : ∀ spec ∈ specs, fs.value? spec.name = spec.defaultValue →
    spec.name ∉ after.current.keys
  read : ∀ source, (fs.readParameters after.current source).1 = .ok false
  again : (after.update fs.addressPatch).current = after.current
  path : after.path = bar.path
  historyLength : after.historyLength = bar.historyLength
  earlier : after.earlier = bar.earlier

theorem flatMap_keys_specs (fs : Filters) :
    fs.specs.flatMap FieldSpec.keys = fs.addressPatch.map (·.1) := by
  rw [addressPatch_keys, specs, List.flatMap_map]
  rfl

variable {fs : Filters} {field : FieldState}

theorem occurrences_name (h : field ∈ fs.fields) (params : Parameters) :
    (params.patch fs.addressPatch).occurrences field.spec.name =
      (if field.atDefault then none else field.effective).toList.map (field.spec.name, ·) := by
  rw [Parameters.occurrences_patch_of_mem fs.addressPatch_nodup (name_mem_addressPatch h),
    get?_parameters h]

theorem alias_not_mem_patch (h : field ∈ fs.fields) {key : String}
    (hkey : field.spec.aliasKey = some key) (params : Parameters) :
    key ∉ (params.patch fs.addressPatch).keys := by
  rw [← Parameters.occurrences_eq_nil_iff]
  exact Parameters.occurrences_patch_of_mem fs.addressPatch_nodup
    (alias_mem_addressPatch h hkey) params

theorem filter_others (fs : Filters) (params : Parameters) :
    (params.patch fs.addressPatch).pairs.filter
        (fun pair => pair.1 ∉ fs.specs.flatMap FieldSpec.keys) =
      params.pairs.filter fun pair => pair.1 ∉ fs.specs.flatMap FieldSpec.keys := by
  refine Parameters.filter_patch (fun key => decide (key ∉ fs.specs.flatMap FieldSpec.keys)) ?_
    params
  intro key hkey
  rw [flatMap_keys_specs]
  simpa using hkey

theorem readParameters_patch (hopen : fs.isClosed = false) (hnormal : fs.Normal)
    (params : Parameters) (source : Provenance) :
    (fs.readParameters (params.patch fs.addressPatch) source).1 = .ok false := by
  rw [readParameters_fst hopen, reading_patch hnormal]
  simp

theorem rewritten_update (hopen : fs.isClosed = false) (hnormal : fs.Normal)
    (bar : AddressBar) : Rewritten fs.specs fs bar (bar.update fs.addressPatch) := by
  refine ⟨filter_others fs bar.current, ?_, ?_, ?_,
    readParameters_patch hopen hnormal bar.current, ?_, rfl, rfl, rfl⟩
  · intro spec hspec key hkey
    obtain ⟨field, hfield, rfl⟩ := List.mem_map.1 hspec
    exact alias_not_mem_patch hfield hkey bar.current
  · intro spec hspec hmoved
    obtain ⟨field, hfield, rfl⟩ := List.mem_map.1 hspec
    rw [value?_name hfield] at hmoved ⊢
    have hoff : field.atDefault = false := by
      rw [← Bool.not_eq_true, FieldState.atDefault_iff]
      exact hmoved
    obtain ⟨v, _, heff⟩ := FieldState.effective_of_not_atDefault hoff
    refine ⟨v, heff, (occurrences_name hfield bar.current).trans ?_⟩
    rw [hoff, heff]
    rfl
  · intro spec hspec hunmoved
    obtain ⟨field, hfield, rfl⟩ := List.mem_map.1 hspec
    rw [value?_name hfield] at hunmoved
    rw [← Parameters.occurrences_eq_nil_iff]
    refine (occurrences_name hfield bar.current).trans ?_
    rw [FieldState.atDefault_iff.2 hunmoved]
    rfl
  · exact Parameters.patch_patch fs.addressPatch_nodup bar.current

/-- Open filters write themselves into a bar, whatever it shows. -/
theorem update_rewrites {specs : List FieldSpec} {start : Filters}
    (hstart : ofSpecs specs = .ok start) (actions : List Action)
    (hopen : (start.run actions).isClosed = false) (bar : AddressBar) :
    Rewritten specs (start.run actions) bar
      (bar.update (start.run actions).addressPatch) := by
  have hspecs : (start.run actions).specs = specs :=
    (run_specs start actions).trans (ofSpecs_specs hstart)
  have hnormal := run_normal (ofSpecs_normal hstart) actions
  exact hspecs ▸ rewritten_update hopen hnormal bar

/-- A text is set, and a toggle is set to its default. -/
def retyped : List Action :=
  [.assign [(textField, some " new ")] .user, .assign [(inactiveField, some "false")] .user]

/-- The bar has the text under both keys and twice under one, a page, and what is
none of the filters' business. -/
theorem update_rewrites_repeated :
    ∃ start, ofSpecs standardFields = .ok start ∧ (start.run retyped).isClosed = false ∧
      let bar : AddressBar := .ofUrl "/search?lang=en&query=a&q=b&lang=de&q=c&page=7&x="
      (bar.update (start.run retyped).addressPatch).url =
        "/search?lang=en&q=new&lang=de&x=" ∧
      Rewritten standardFields (start.run retyped) bar
        (bar.update (start.run retyped).addressPatch) := by
  obtain ⟨start, hstart, hcheck⟩ := exists_ok_of_check (ofSpecs standardFields)
    (fun start => decide ((start.run retyped).isClosed = false ∧
      ((AddressBar.ofUrl "/search?lang=en&query=a&q=b&lang=de&q=c&page=7&x=").update
        (start.run retyped).addressPatch).url = "/search?lang=en&q=new&lang=de&x="))
    (by decide +kernel)
  obtain ⟨hopen, hurl⟩ := of_decide_eq_true hcheck
  exact ⟨start, hstart, hopen, hurl, update_rewrites hstart retyped hopen _⟩

end RecordSearch.Filters
