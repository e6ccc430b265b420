import RecordSearch.AddressBar
import RecordSearch.Proofs.Filters.Values
import RecordSearch.Proofs.Parameters

/-!
# Values and addresses

An address carries the fields that are off their default, and no others. That
is enough to tell all values in effect: a field whose name is missing stands at
its default. So two states of the same fields have the same parameters exactly
if they have the same values in effect, which is why a controller may compare
parameters when it means values.

The way back goes through the address bar. The patch that the filters make
mentions every key of every field, and no key twice, so it settles what each of
them reads: the name of a field reads what the parameters say, its alias reads
nothing. Whatever else the bar shows, reading it after the patch gives every
field the value in effect that it has. The one thing to know about the values
is that they are trimmed, because reading trims.
-/

namespace RecordSearch

namespace FieldState

/-- A field off its default has a value of its own. -/
theorem effective_of_not_atDefault {field : FieldState} (h : field.atDefault = false) :
    ∃ v, field.value = some v ∧ field.effective = some v := by
  rw [atDefault, FieldSpec.isDefault, beq_eq_false_iff_ne] at h
  rw [effective]
  cases hv : field.value with
  | none =>
      rw [hv] at h
      exact absurd rfl h
  | some v => exact ⟨v, rfl, rfl⟩

theorem atDefault_iff {field : FieldState} :
    field.atDefault = true ↔ field.effective = field.spec.defaultValue := by
  rw [atDefault, FieldSpec.isDefault, beq_iff_eq, effective]

theorem effective_of_atDefault {field : FieldState} (h : field.atDefault = true) :
    field.effective = field.spec.defaultValue :=
  atDefault_iff.1 h

theorem addressEntry_key {field : FieldState} {pair : String × String}
    (h : field.addressEntry = some pair) :
    pair.1 = field.spec.name ∧ field.atDefault = false := by
  rw [addressEntry] at h
  split at h
  · cases h
  · next hoff =>
      obtain ⟨v, _, rfl⟩ := Option.map_eq_some_iff.1 h
      exact ⟨rfl, by simpa using hoff⟩

end FieldState

namespace Filters

/-! ## The parameters of the filters -/

theorem addressEntries_nodup (fs : Filters) :
    ((fs.fields.filterMap (·.addressEntry)).map (·.1)).Nodup := by
  rw [List.nodup_iff_pairwise_ne, List.pairwise_map, List.pairwise_filterMap]
  have hnames := fs.names_nodup
  rw [List.nodup_iff_pairwise_ne, List.pairwise_map] at hnames
  refine hnames.imp ?_
  intro f g hne p hp q hq heq
  rw [(FieldState.addressEntry_key hp).1, (FieldState.addressEntry_key hq).1] at heq
  exact hne heq

theorem parameters_pairs (fs : Filters) :
    fs.parameters.pairs = fs.fields.filterMap (·.addressEntry) :=
  Parameters.ofList_pairs fs.addressEntries_nodup

/-- The parameters list the fields off their default, in the order of their
declarations. -/
theorem parameters_keys (fs : Filters) :
    fs.parameters.keys =
      (fs.specs.filter fun spec => fs.value? spec.name ≠ spec.defaultValue).map (·.name) := by
  rw [Parameters.keys, parameters_pairs, List.map_filterMap, specs, List.filter_map,
    List.map_map, ← List.filterMap_eq_map, List.filterMap_filter]
  refine List.filterMap_congr fun field hfield => ?_
  cases hdefault : field.atDefault with
  | true =>
      have hsame : fs.value? field.spec.name = field.spec.defaultValue :=
        (value?_name hfield).trans (FieldState.effective_of_atDefault hdefault)
      simp [FieldState.addressEntry, hdefault, hsame]
  | false =>
      obtain ⟨v, _, heff⟩ := FieldState.effective_of_not_atDefault hdefault
      have hdiffers : fs.value? field.spec.name ≠ field.spec.defaultValue := by
        rw [value?_name hfield, Ne, ← FieldState.atDefault_iff, hdefault]
        exact Bool.false_ne_true
      simp [FieldState.addressEntry, hdefault, heff, hdiffers]

theorem value?_of_mem_parameters {fs : Filters} {pair : String × String}
    (h : pair ∈ fs.parameters.pairs) : fs.value? pair.1 = some pair.2 := by
  rw [parameters_pairs] at h
  obtain ⟨field, hfield, hentry⟩ := List.mem_filterMap.1 h
  obtain ⟨hkey, hoff⟩ := FieldState.addressEntry_key hentry
  rw [FieldState.addressEntry, hoff] at hentry
  obtain ⟨v, heff, rfl⟩ := Option.map_eq_some_iff.1 hentry
  rw [value?_name hfield, heff]

/-- What the name of a field reads in the parameters. -/
theorem get?_parameters {fs : Filters} {field : FieldState} (h : field ∈ fs.fields) :
    fs.parameters.get? field.spec.name =
      if field.atDefault then none else field.effective := by
  rw [parameters]
  split
  · next hdefault =>
      refine Parameters.get?_ofList_of_not_mem fun hmem => ?_
      obtain ⟨pair, hpair, hkey⟩ := List.mem_map.1 hmem
      obtain ⟨other, hother, hentry⟩ := List.mem_filterMap.1 hpair
      obtain ⟨hname, hoff⟩ := FieldState.addressEntry_key hentry
      have hsame : other = field := by
        refine field_eq_of_hasKey hother h other.spec.hasKey_name ?_
        rw [← hname, hkey]
        exact field.spec.hasKey_name
      rw [hsame, hdefault] at hoff
      cases hoff
  · next hoff =>
      have hoff : field.atDefault = false := by simpa using hoff
      obtain ⟨v, _, heff⟩ := FieldState.effective_of_not_atDefault hoff
      rw [heff]
      refine Parameters.get?_ofList_of_mem fs.addressEntries_nodup ?_
      refine List.mem_filterMap.2 ⟨field, h, ?_⟩
      rw [FieldState.addressEntry, hoff, heff]
      rfl

/-- The values in effect can be told from the parameters. -/
theorem effectives_eq_of_parameters (fs : Filters) :
    fs.effectives =
      fs.specs.map fun spec => (fs.parameters.get? spec.name).or spec.defaultValue := by
  rw [effectives, specs, List.map_map]
  refine List.map_congr_left fun field hfield => ?_
  dsimp only [Function.comp]
  rw [get?_parameters hfield]
  split
  · next hdefault => rw [FieldState.effective_of_atDefault hdefault, Option.none_or]
  · next hoff =>
      obtain ⟨v, _, heff⟩ := FieldState.effective_of_not_atDefault (by simpa using hoff)
      rw [heff, Option.some_or]

theorem parameters_eq_iff {fs gs : Filters} (hspecs : fs.specs = gs.specs) :
    fs.parameters = gs.parameters ↔ fs.effectives = gs.effectives := by
  constructor
  · intro h
    rw [effectives_eq_of_parameters, effectives_eq_of_parameters, h, hspecs]
  · intro h
    exact parameters_eq_of_standings (standings_eq_of_effectives hspecs h)

/-! ## The patch of the filters -/

theorem addressPatch_keys (fs : Filters) :
    fs.addressPatch.map (·.1) = fs.fields.flatMap FieldState.keys := by
  rw [addressPatch, List.map_flatMap]
  refine List.flatMap_congr fun field _ => ?_
  rw [List.map_cons, List.map_map, FieldState.keys, FieldSpec.keys]
  congr 1
  exact List.map_id _

theorem addressPatch_nodup (fs : Filters) : (fs.addressPatch.map (·.1)).Nodup := by
  rw [addressPatch_keys]
  exact fs.keys_nodup

theorem name_mem_addressPatch {fs : Filters} {field : FieldState} (h : field ∈ fs.fields) :
    (field.spec.name, fs.parameters.get? field.spec.name) ∈ fs.addressPatch :=
  List.mem_flatMap.2 ⟨field, h, List.mem_cons_self⟩

theorem alias_mem_addressPatch {fs : Filters} {field : FieldState} (h : field ∈ fs.fields)
    {key : String} (hkey : field.spec.aliasKey = some key) :
    (key, none) ∈ fs.addressPatch := by
  refine List.mem_flatMap.2 ⟨field, h, List.mem_cons_of_mem _ ?_⟩
  rw [hkey]
  exact List.mem_cons_self

theorem parameterFor_patch {fs : Filters} {field : FieldState} (h : field ∈ fs.fields)
    (params : Parameters) :
    parameterFor (params.patch fs.addressPatch) field.spec =
      fs.parameters.get? field.spec.name := by
  rw [parameterFor,
    Parameters.get?_patch_of_mem fs.addressPatch_nodup (name_mem_addressPatch h)]
  cases hkey : field.spec.aliasKey with
  | none => rw [Option.bind_none, Option.or_none]
  | some key =>
      rw [Option.bind_some, Parameters.get?_patch_of_mem fs.addressPatch_nodup
        (alias_mem_addressPatch h hkey), Option.or_none]

theorem parameterFor_parameters {fs : Filters} {field : FieldState} (h : field ∈ fs.fields) :
    parameterFor fs.parameters field.spec = fs.parameters.get? field.spec.name := by
  rw [parameterFor]
  cases hkey : field.spec.aliasKey with
  | none => rw [Option.bind_none, Option.or_none]
  | some key =>
      have hunlisted : key ∉ (fs.fields.filterMap (·.addressEntry)).map (·.1) := by
        intro hmem
        obtain ⟨pair, hpair, rfl⟩ := List.mem_map.1 hmem
        obtain ⟨other, hother, hentry⟩ := List.mem_filterMap.1 hpair
        exact name_ne_alias hother h hkey (FieldState.addressEntry_key hentry).1.symm
      have hnone : fs.parameters.get? key = none := Parameters.get?_ofList_of_not_mem hunlisted
      rw [Option.bind_some, hnone, Option.or_none]

/-- What says of each field what the parameters say reads back as the values in
effect. -/
theorem reading_eq_effectives {fs : Filters} (hnormal : fs.Normal) {params : Parameters}
    (h : ∀ field ∈ fs.fields,
      parameterFor params field.spec = fs.parameters.get? field.spec.name) :
    fs.reading params = fs.effectives := by
  rw [reading, specs, effectives, List.map_map]
  refine List.map_congr_left fun field hfield => ?_
  dsimp only [Function.comp]
  rw [FieldSpec.reading, h field hfield, get?_parameters hfield]
  split
  · next hdefault => exact (FieldState.effective_of_atDefault hdefault).symm
  · next hoff =>
      obtain ⟨v, hv, heff⟩ := FieldState.effective_of_not_atDefault (by simpa using hoff)
      rw [heff, Text.normalize?, Option.bind_some, hnormal field hfield v hv]
      rfl

/-- A bar that the filters have patched reads back as their values in effect,
whatever it showed before. -/
theorem reading_patch {fs : Filters} (hnormal : fs.Normal) (params : Parameters) :
    fs.reading (params.patch fs.addressPatch) = fs.effectives :=
  reading_eq_effectives hnormal fun _ hfield => parameterFor_patch hfield params

theorem reading_parameters {fs : Filters} (hnormal : fs.Normal) :
    fs.reading fs.parameters = fs.effectives :=
  reading_eq_effectives hnormal fun _ hfield => parameterFor_parameters hfield

theorem reading_eq_of_specs {fs gs : Filters} (h : fs.specs = gs.specs)
    (params : Parameters) : fs.reading params = gs.reading params := by
  rw [reading, reading, h]

end Filters

end RecordSearch
