import RecordSearch.Proofs.Filters.Addressing
import RecordSearch.Proofs.KeyMap
import RecordSearch.Proofs.Trimming

/-!
# What an assignment does to the values

Filters are read in many ways: as a query, as an address, field by field, or by
asking whether a field was moved. All of them see only the declarations and the
values in effect, so filters that stand alike in these two read alike, whatever
was stored to get there and whatever choices the backend has sent.

An assignment is then described by what it leaves in each field. The last
change addressed to a field decides, and a field without a change keeps its
value. The outcome says whether some value in effect is different afterwards,
and the feed gains an announcement exactly in that case. Reading parameters is
the assignment that addresses every field once.
-/

namespace RecordSearch

/-- What is built from nothing but constants can be checked by evaluation. -/
theorem exists_ok_of_check {ε α : Type} (result : Except ε α) (check : α → Bool)
    (h : (match result with
      | .ok a => check a
      | .error _ => false) = true) :
    ∃ a, result = .ok a ∧ check a = true := by
  split at h
  · exact ⟨_, rfl, h⟩
  · cases h

namespace FieldState

theorem isMoved_eq (field : FieldState) : field.isMoved = !field.atDefault := by
  rw [isMoved, atDefault, FieldSpec.isDefault, FieldSpec.effective]
  cases field.value with
  | none => simp
  | some v => simp

/-- A field is moved if it has a value other than its default. -/
theorem isMoved_iff {field : FieldState} :
    field.isMoved = true ↔ ∃ v, field.value = some v ∧ field.spec.defaultValue ≠ some v := by
  rw [isMoved, atDefault, FieldSpec.isDefault, FieldSpec.effective]
  cases field.value with
  | none => simp
  | some v => simpa using ne_comm

theorem queryEntry_name {field : FieldState} {pair : String × String}
    (h : field.queryEntry = some pair) : pair.1 = field.spec.name := by
  rw [queryEntry] at h
  split at h
  · cases h
  · split at h
    · cases h
    · cases h
      rfl

/-- The value that assignments leave in a field. -/
def valueAfter (field : FieldState) (changes : Assignments) : Option String :=
  match changes.reverse.find? fun change => field.spec.hasKey change.1 with
  | some change => Text.normalize? change.2
  | none => field.value

/-- A field after assignments. -/
def after (field : FieldState) (changes : Assignments) : FieldState :=
  { field with value := field.valueAfter changes }

theorem valueAfter_singleton (field : FieldState) (change : String × Option String) :
    field.valueAfter [change] =
      if field.spec.hasKey change.1 = true then Text.normalize? change.2 else field.value := by
  rw [valueAfter, List.reverse_singleton, List.find?_singleton]
  cases field.spec.hasKey change.1 with
  | true => rfl
  | false => rfl

theorem after_nil (field : FieldState) : field.after [] = field := rfl

theorem after_cons (field : FieldState) (change : String × Option String)
    (rest : Assignments) :
    field.after (change :: rest) =
      (if field.spec.hasKey change.1 then
        { field with value := Text.normalize? change.2 } else field).after rest := by
  rw [after, valueAfter, List.reverse_cons, List.find?_append, List.find?_singleton]
  by_cases hkey : field.spec.hasKey change.1 = true
  · rw [if_pos hkey, if_pos hkey, after, valueAfter]
    dsimp only
    cases rest.reverse.find? fun change => field.spec.hasKey change.1 with
    | some later => rfl
    | none => rfl
  · rw [if_neg hkey, if_neg hkey, Option.or_none, after, valueAfter]

end FieldState

/-- The value in effect that parameters give a field. -/
def FieldSpec.reading (spec : FieldSpec) (params : Parameters) : Option String :=
  spec.effective (Text.normalize? (Filters.parameterFor params spec))

namespace Filters

/-! ## Ways of reading -/

/-- The declarations with the values that were set. -/
def slots (fs : Filters) : List (FieldSpec × Option String) :=
  fs.fields.map fun field => (field.spec, field.value)

/-- The declarations with the values in effect. -/
def standings (fs : Filters) : List (FieldSpec × Option String) :=
  fs.fields.map fun field => (field.spec, field.effective)

/-- Every value that was set is trimmed and not blank. -/
def Normal (fs : Filters) : Prop :=
  ∀ field ∈ fs.fields, ∀ v, field.value = some v → Text.normalize v = some v

/-- What parameters would put into effect. -/
def reading (fs : Filters) (params : Parameters) : List (Option String) :=
  fs.specs.map (·.reading params)

theorem mem_slots {fs : Filters} {spec : FieldSpec} {v : Option String} :
    (spec, v) ∈ fs.slots ↔ ∃ field ∈ fs.fields, field.spec = spec ∧ field.value = v := by
  rw [slots, List.mem_map]
  simp only [Prod.mk.injEq]

theorem specs_eq_map_slots (fs : Filters) : fs.specs = fs.slots.map (·.1) := by
  rw [specs, slots, List.map_map]
  rfl

theorem standings_eq_map_slots (fs : Filters) :
    fs.standings = fs.slots.map fun slot => (slot.1, slot.1.effective slot.2) := by
  rw [standings, slots, List.map_map]
  rfl

theorem effectives_eq_map_standings (fs : Filters) :
    fs.effectives = fs.standings.map (·.2) := by
  rw [effectives, standings, List.map_map]
  rfl

theorem standings_eq_zip (fs : Filters) : fs.standings = fs.specs.zip fs.effectives := by
  rw [standings, specs, effectives, List.zip_map']

theorem standings_eq_of_effectives {fs gs : Filters} (hspecs : fs.specs = gs.specs)
    (h : fs.effectives = gs.effectives) : fs.standings = gs.standings := by
  rw [standings_eq_zip, standings_eq_zip, hspecs, h]

theorem standings_eq_of_slots {fs gs : Filters} (h : fs.slots = gs.slots) :
    fs.standings = gs.standings := by
  rw [standings_eq_map_slots, standings_eq_map_slots, h]

theorem effectives_eq_of_standings {fs gs : Filters} (h : fs.standings = gs.standings) :
    fs.effectives = gs.effectives := by
  rw [effectives_eq_map_standings, effectives_eq_map_standings, h]

theorem values_eq_of_standings {fs gs : Filters} (h : fs.standings = gs.standings) :
    fs.values = gs.values := by
  have hentry : FieldState.queryEntry = fun field => field.effective.bind fun value =>
      if field.spec.suppressDefault && field.effective == field.spec.defaultValue then none
      else some (field.spec.name, value) := by
    funext field
    rw [FieldState.queryEntry]
    cases hvalue : field.effective with
    | none => rfl
    | some value =>
        rw [FieldState.atDefault, FieldSpec.isDefault, ← FieldState.effective, hvalue]
        rfl
  have hread (hs : Filters) : hs.values = .ofList (hs.standings.filterMap fun s =>
      s.2.bind fun value =>
        if s.1.suppressDefault && s.2 == s.1.defaultValue then none
        else some (s.1.name, value)) := by
    rw [values, hentry, standings, List.filterMap_map]
    rfl
  rw [hread, hread, h]

theorem parameters_eq_of_standings {fs gs : Filters} (h : fs.standings = gs.standings) :
    fs.parameters = gs.parameters := by
  have hread (hs : Filters) : hs.parameters = .ofList (hs.standings.filterMap fun s =>
      if s.2 == s.1.defaultValue then none else s.2.map (s.1.name, ·)) := by
    rw [parameters, standings, List.filterMap_map]
    rfl
  rw [hread, hread, h]

theorem isMoved_eq_find? (fs : Filters) (key : String) :
    fs.isMoved key =
      ((fs.standings.find? (·.1.hasKey key)).any fun s => !(s.2 == s.1.defaultValue)) := by
  have hfind : fs.standings.find? (·.1.hasKey key) =
      (fs.field? key).map fun field => (field.spec, field.effective) := by
    rw [standings, List.find?_map]
    rfl
  rw [isMoved, hfind]
  cases fs.field? key with
  | none => rfl
  | some field => exact field.isMoved_eq

theorem isMoved_eq_of_standings {fs gs : Filters} (h : fs.standings = gs.standings)
    (key : String) : fs.isMoved key = gs.isMoved key := by
  rw [isMoved_eq_find?, isMoved_eq_find?, h]

theorem normal_iff_slots {fs : Filters} :
    fs.Normal ↔ ∀ slot ∈ fs.slots, ∀ v, slot.2 = some v → Text.normalize v = some v := by
  rw [Normal, slots]
  constructor
  · intro h slot hslot
    obtain ⟨field, hfield, rfl⟩ := List.mem_map.1 hslot
    exact h field hfield
  · intro h field hfield
    exact h _ (List.mem_map_of_mem hfield)

theorem value?_eq_of_standings {fs gs : Filters} (h : fs.standings = gs.standings)
    (key : String) : fs.value? key = gs.value? key := by
  have hread (hs : Filters) :
      hs.value? key = (hs.standings.find? (·.1.hasKey key)).bind (·.2) := by
    rw [value?, field?, standings, List.find?_map, Option.bind_map]
    rfl
  rw [hread, hread, h]

theorem value?_name {fs : Filters} {field : FieldState} (h : field ∈ fs.fields) :
    fs.value? field.spec.name = field.effective := by
  rw [value?, field?_name h, Option.bind_some]

theorem isMoved_iff {fs : Filters} {key : String} :
    fs.isMoved key = true ↔ ∃ field ∈ fs.fields, field.spec.hasKey key = true ∧
      ∃ v, field.value = some v ∧ field.spec.defaultValue ≠ some v := by
  constructor
  · intro h
    rw [isMoved] at h
    split at h
    · next field hfind =>
        obtain ⟨hfield, hkey⟩ := field?_eq_some_iff.1 hfind
        exact ⟨field, hfield, hkey, FieldState.isMoved_iff.1 h⟩
    · cases h
  · rintro ⟨field, hfield, hkey, hmoved⟩
    rw [isMoved, field?_eq_some_iff.2 ⟨hfield, hkey⟩]
    exact FieldState.isMoved_iff.2 hmoved

/-- What the name of a field stands for in a query. -/
theorem get?_values {fs : Filters} {field : FieldState} (h : field ∈ fs.fields) :
    fs.values.get? field.spec.name = field.queryEntry.map (·.2) := by
  have hvalues : fs.values = .ofList (fs.fields.filterMap fun field =>
      (field.queryEntry.map (·.2)).map (field.spec.name, ·)) := by
    refine congrArg KeyMap.ofList (List.filterMap_congr fun field _ => ?_)
    cases hentry : field.queryEntry with
    | none => rfl
    | some pair => rw [Option.map_some, Option.map_some, ← FieldState.queryEntry_name hentry]
  rw [hvalues]
  refine KeyMap.get?_ofList_filterMap h fun other hother hname => ?_
  rw [field_eq_of_hasKey h hother field.spec.hasKey_name (hname ▸ other.spec.hasKey_name)]

theorem get?_values_of_unnamed {fs : Filters} {key : String}
    (h : ∀ spec ∈ fs.specs, spec.name ≠ key) : fs.values.get? key = none := by
  rw [Option.eq_none_iff_forall_ne_some]
  intro v hv
  obtain ⟨field, hfield, hentry⟩ := List.mem_filterMap.1 (KeyMap.mem_of_get?_ofList hv)
  exact h field.spec (List.mem_map_of_mem hfield) (FieldState.queryEntry_name hentry).symm

/-- Filters that were just declared have no values, and nobody listens. -/
theorem ofSpecs_eq_ok {specs : List FieldSpec} {filters : Filters}
    (h : ofSpecs specs = .ok filters) :
    filters.fields = specs.map FieldState.unset ∧ filters.valueFeed = .empty := by
  rw [ofSpecs] at h
  split at h
  · cases h
  · cases h
    exact ⟨rfl, rfl⟩

theorem ofSpecs_specs {specs : List FieldSpec} {filters : Filters}
    (h : ofSpecs specs = .ok filters) : filters.specs = specs := by
  rw [Filters.specs, (ofSpecs_eq_ok h).1, List.map_map]
  exact List.map_id specs

theorem ofSpecs_isClosed {specs : List FieldSpec} {filters : Filters}
    (h : ofSpecs specs = .ok filters) : filters.isClosed = false := by
  rw [isClosed, (ofSpecs_eq_ok h).2]
  rfl

theorem ofSpecs_normal {specs : List FieldSpec} {filters : Filters}
    (h : ofSpecs specs = .ok filters) : filters.Normal := by
  intro field hfield v hv
  rw [(ofSpecs_eq_ok h).1] at hfield
  obtain ⟨spec, _, rfl⟩ := List.mem_map.1 hfield
  cases hv

/-! ## Assignments -/

theorem write_fields (fs : Filters) (key : String) (value : Option String) :
    (fs.write key value).fields = fs.fields.map fun field =>
      if field.spec.hasKey key then { field with value := value } else field := rfl

theorem writeAll_cons (fs : Filters) (change : String × Option String) (rest : Assignments) :
    fs.writeAll (change :: rest) =
      (fs.write change.1 (Text.normalize? change.2)).writeAll rest := rfl

theorem writeAll_fields (fs : Filters) (changes : Assignments) :
    (fs.writeAll changes).fields = fs.fields.map (·.after changes) := by
  induction changes generalizing fs with
  | nil =>
      rw [show (fun field : FieldState => field.after []) = id from
        funext FieldState.after_nil, List.map_id]
      rfl
  | cons change rest ih =>
      rw [writeAll_cons, ih, write_fields, List.map_map]
      refine List.map_congr_left fun field _ => ?_
      rw [FieldState.after_cons]
      rfl

theorem writeAll_feeds (fs : Filters) (changes : Assignments) :
    (fs.writeAll changes).valueFeed = fs.valueFeed ∧
      (fs.writeAll changes).choicesFeed = fs.choicesFeed := by
  induction changes generalizing fs with
  | nil => exact ⟨rfl, rfl⟩
  | cons change rest ih => exact ih (fs.write change.1 (Text.normalize? change.2))

theorem assign_of_known {fs : Filters} (hopen : fs.isClosed = false) {changes : Assignments}
    (hknown : ∀ change ∈ changes, fs.contains change.1 = true) (source : Provenance) :
    fs.assign changes source =
      if (fs.writeAll changes).effectives = fs.effectives then (.ok false, fs.writeAll changes)
      else (.ok true, (fs.writeAll changes).announce source) := by
  have hfind : changes.find? (fun change => !fs.contains change.1) = none := by
    rw [List.find?_eq_none]
    intro change hmem
    rw [hknown change hmem]
    decide
  rw [assign, hopen, if_neg Bool.false_ne_true, hfind]

/-- What every assignment comes to: it is refused and changes nothing, or it
goes through silently, or it is announced. -/
theorem assign_cases (fs : Filters) (changes : Assignments) (source : Provenance) :
    (∃ e, fs.assign changes source = (.error e, fs)) ∨
    ((fs.writeAll changes).effectives = fs.effectives ∧
      fs.assign changes source = (.ok false, fs.writeAll changes)) ∨
    ((fs.writeAll changes).effectives ≠ fs.effectives ∧
      fs.assign changes source = (.ok true, (fs.writeAll changes).announce source)) := by
  rw [assign]
  split
  · exact .inl ⟨_, rfl⟩
  · split
    · exact .inl ⟨_, rfl⟩
    · dsimp only
      split
      · next heq => exact .inr (.inl ⟨heq, rfl⟩)
      · next hne => exact .inr (.inr ⟨hne, rfl⟩)

theorem announce_fields (fs : Filters) (source : Provenance) :
    (fs.announce source).fields = fs.fields := rfl

theorem writeAll_specs (fs : Filters) (changes : Assignments) :
    (fs.writeAll changes).specs = fs.specs := by
  rw [specs, writeAll_fields, List.map_map]
  rfl

theorem assign_fields_of_ok {fs : Filters} {changes : Assignments} {source : Provenance}
    {changed : Bool} (h : (fs.assign changes source).1 = .ok changed) :
    (fs.assign changes source).2.fields = fs.fields.map (·.after changes) := by
  rw [← writeAll_fields]
  rcases assign_cases fs changes source with ⟨e, heq⟩ | ⟨_, heq⟩ | ⟨_, heq⟩
  · rw [heq] at h
    cases h
  · rw [heq]
  · rw [heq, announce_fields]

theorem field?_of_after {fs gs : Filters} {changes : Assignments}
    (hfields : gs.fields = fs.fields.map (·.after changes)) {field : FieldState}
    (hfield : field ∈ fs.fields) {key : String} (hkey : field.spec.hasKey key = true) :
    gs.field? key = some (field.after changes) := by
  rw [field?_eq_some_iff, hfields]
  exact ⟨List.mem_map_of_mem hfield, hkey⟩

/-- Whether a field is off its default after assignments. -/
theorem isMoved_of_after {fs gs : Filters} {changes : Assignments}
    (hfields : gs.fields = fs.fields.map (·.after changes)) {field : FieldState}
    (hfield : field ∈ fs.fields) {key : String} (hkey : field.spec.hasKey key = true) :
    gs.isMoved key = !field.spec.isDefault (field.valueAfter changes) := by
  rw [isMoved, field?_of_after hfields hfield hkey]
  exact FieldState.isMoved_eq _

@[simp] theorem assign_specs (fs : Filters) (changes : Assignments) (source : Provenance) :
    (fs.assign changes source).2.specs = fs.specs := by
  rcases assign_cases fs changes source with ⟨e, heq⟩ | ⟨_, heq⟩ | ⟨_, heq⟩
  · rw [heq]
  · rw [heq, writeAll_specs]
  · rw [heq]
    exact writeAll_specs fs changes

@[simp] theorem assign_isClosed (fs : Filters) (changes : Assignments) (source : Provenance) :
    (fs.assign changes source).2.isClosed = fs.isClosed := by
  have hwrite : (fs.writeAll changes).isClosed = fs.isClosed := by
    rw [isClosed, (writeAll_feeds fs changes).1, isClosed]
  rcases assign_cases fs changes source with ⟨e, heq⟩ | ⟨_, heq⟩ | ⟨_, heq⟩
  · rw [heq]
  · rw [heq, hwrite]
  · rw [heq]
    exact hwrite

/-- Only a change that can be seen is announced, with the values it led to. -/
theorem assign_valueFeed (fs : Filters) (changes : Assignments) (source : Provenance) :
    (fs.assign changes source).2.valueFeed =
      match (fs.assign changes source).1 with
      | .ok true => fs.valueFeed.publish ⟨(fs.assign changes source).2.values, source⟩
      | _ => fs.valueFeed := by
  rcases assign_cases fs changes source with ⟨e, heq⟩ | ⟨_, heq⟩ | ⟨_, heq⟩
  · rw [heq]
  · rw [heq]
    exact (writeAll_feeds fs changes).1
  · rw [heq]
    dsimp only [announce]
    rw [(writeAll_feeds fs changes).1]
    rfl

@[simp] theorem assign_choicesFeed (fs : Filters) (changes : Assignments)
    (source : Provenance) : (fs.assign changes source).2.choicesFeed = fs.choicesFeed := by
  rcases assign_cases fs changes source with ⟨e, heq⟩ | ⟨_, heq⟩ | ⟨_, heq⟩
  · rw [heq]
  · rw [heq, (writeAll_feeds fs changes).2]
  · rw [heq]
    exact (writeAll_feeds fs changes).2

/-- The outcome of an assignment that goes through says whether some value in
effect is different afterwards. -/
theorem assign_fst {fs : Filters} (hopen : fs.isClosed = false) {changes : Assignments}
    (hknown : ∀ change ∈ changes, fs.contains change.1 = true) (source : Provenance) :
    (fs.assign changes source).1 =
      .ok (decide ((fs.assign changes source).2.effectives ≠ fs.effectives)) := by
  rw [assign_of_known hopen hknown]
  split
  · next heq => simp [heq]
  · next hne =>
      have heff : ((fs.writeAll changes).announce source).effectives =
          (fs.writeAll changes).effectives := rfl
      simp [heff, hne]

theorem assign_normal {fs : Filters} (h : fs.Normal) (changes : Assignments)
    (source : Provenance) : (fs.assign changes source).2.Normal := by
  have hwrite : (fs.writeAll changes).Normal := by
    intro field hfield v hv
    rw [writeAll_fields] at hfield
    obtain ⟨old, hold, rfl⟩ := List.mem_map.1 hfield
    rw [FieldState.after, FieldState.valueAfter] at hv
    dsimp only at hv
    split at hv
    · exact Text.normalize?_of_eq_some hv
    · exact h old hold v hv
  rcases assign_cases fs changes source with ⟨e, heq⟩ | ⟨_, heq⟩ | ⟨_, heq⟩
  · rw [heq]
    exact h
  · rw [heq]
    exact hwrite
  · rw [heq]
    exact hwrite

/-- Of assignments made field by field, only its own reaches a field. -/
theorem find?_own {fs : Filters} {field : FieldState} (hfield : field ∈ fs.fields)
    {specs : List FieldSpec} (hspecs : ∀ spec ∈ specs, spec ∈ fs.specs)
    (value : FieldSpec → Option String) :
    (specs.map fun spec => (spec.name, value spec)).reverse.find?
        (fun change => field.spec.hasKey change.1) =
      if field.spec ∈ specs then some (field.spec.name, value field.spec) else none := by
  have hown : ∀ spec ∈ specs, field.spec.hasKey spec.name = true → spec = field.spec := by
    intro spec hspec hkey
    obtain ⟨other, hother, rfl⟩ := List.mem_map.1 (hspecs spec hspec)
    rw [field_eq_of_hasKey hfield hother hkey other.spec.hasKey_name]
  cases hfind : (specs.map fun spec => (spec.name, value spec)).reverse.find?
      (fun change => field.spec.hasKey change.1) with
  | some change =>
      obtain ⟨spec, hspec, rfl⟩ := List.mem_map.1
        (List.mem_reverse.1 (List.mem_of_find?_eq_some hfind))
      obtain rfl := hown spec hspec (by simpa using List.find?_some hfind)
      rw [if_pos hspec]
  | none =>
      rw [if_neg]
      intro hmem
      have hnone := List.find?_eq_none.1 hfind (field.spec.name, value field.spec)
        (List.mem_reverse.2 (List.mem_map.2 ⟨field.spec, hmem, rfl⟩))
      exact hnone field.spec.hasKey_name

/-! ## Reading parameters -/

theorem assignmentsFrom_known (fs : Filters) (params : Parameters) :
    ∀ change ∈ fs.assignmentsFrom params, fs.contains change.1 = true := by
  intro change hchange
  obtain ⟨spec, hspec, rfl⟩ := List.mem_map.1 hchange
  exact contains_name hspec

theorem valueAfter_assignmentsFrom {fs : Filters} {field : FieldState}
    (hfield : field ∈ fs.fields) (params : Parameters) :
    field.valueAfter (fs.assignmentsFrom params) =
      Text.normalize? (parameterFor params field.spec) := by
  have hmem : field.spec ∈ fs.specs := List.mem_map_of_mem hfield
  rw [FieldState.valueAfter, assignmentsFrom,
    find?_own hfield (fun _ => id) (parameterFor params), if_pos hmem]

theorem readParameters_fields {fs : Filters} (hopen : fs.isClosed = false)
    (params : Parameters) (source : Provenance) :
    (fs.readParameters params source).2.fields =
      fs.fields.map (·.after (fs.assignmentsFrom params)) :=
  assign_fields_of_ok (assign_fst hopen (assignmentsFrom_known fs params) source)

/-- What reading parameters leaves in the fields does not depend on what was in
them. -/
theorem readParameters_slots {fs : Filters} (hopen : fs.isClosed = false)
    (params : Parameters) (source : Provenance) :
    (fs.readParameters params source).2.slots =
      fs.specs.map fun spec => (spec, Text.normalize? (parameterFor params spec)) := by
  rw [slots, readParameters_fields hopen, specs, List.map_map, List.map_map]
  refine List.map_congr_left fun field hfield => ?_
  exact congrArg (Prod.mk field.spec) (valueAfter_assignmentsFrom hfield params)

theorem writeAll_assignmentsFrom_effectives (fs : Filters) (params : Parameters) :
    (fs.writeAll (fs.assignmentsFrom params)).effectives = fs.reading params := by
  rw [effectives, writeAll_fields, reading, specs, List.map_map, List.map_map]
  refine List.map_congr_left fun field hfield => ?_
  show field.spec.effective (field.valueAfter (fs.assignmentsFrom params)) = _
  rw [valueAfter_assignmentsFrom hfield params]
  rfl

theorem readParameters_effectives {fs : Filters} (hopen : fs.isClosed = false)
    (params : Parameters) (source : Provenance) :
    (fs.readParameters params source).2.effectives = fs.reading params := by
  rw [readParameters, assign_of_known hopen (assignmentsFrom_known fs params)]
  split
  · exact writeAll_assignmentsFrom_effectives fs params
  · exact writeAll_assignmentsFrom_effectives fs params

theorem readParameters_fst {fs : Filters} (hopen : fs.isClosed = false)
    (params : Parameters) (source : Provenance) :
    (fs.readParameters params source).1 =
      .ok (decide (fs.reading params ≠ fs.effectives)) := by
  rw [← readParameters_effectives hopen params source]
  exact assign_fst hopen (assignmentsFrom_known fs params) source

/-! ## Choices -/

theorem writeChoices_slots (fs : Filters) (key : String) (choices : List Choice) :
    (fs.writeChoices key choices).slots = fs.slots := by
  rw [slots, slots, writeChoices, mapFields, List.map_map]
  refine List.map_congr_left fun field _ => ?_
  dsimp only [Function.comp]
  split
  · rfl
  · rfl

/-- Choices are sent past the values. -/
theorem setChoices_keeps (fs : Filters) (key : String) (choices : List Choice) :
    (fs.setChoices key choices).2.slots = fs.slots ∧
      (fs.setChoices key choices).2.valueFeed = fs.valueFeed := by
  rw [setChoices]
  split
  · exact ⟨rfl, rfl⟩
  · split
    · exact ⟨rfl, rfl⟩
    · split
      · exact ⟨rfl, rfl⟩
      · exact ⟨writeChoices_slots fs key choices, rfl⟩

theorem setChoices_specs (fs : Filters) (key : String) (choices : List Choice) :
    (fs.setChoices key choices).2.specs = fs.specs := by
  rw [specs_eq_map_slots, (setChoices_keeps fs key choices).1, ← specs_eq_map_slots]

theorem setChoices_foldl_keeps (entries : List (String × List Choice)) (fs : Filters) :
    (entries.foldl (fun fs entry => (fs.setChoices entry.1 entry.2).2) fs).slots = fs.slots ∧
      (entries.foldl (fun fs entry => (fs.setChoices entry.1 entry.2).2) fs).valueFeed =
        fs.valueFeed := by
  induction entries generalizing fs with
  | nil => exact ⟨rfl, rfl⟩
  | cons entry rest ih =>
      have hset := setChoices_keeps fs entry.1 entry.2
      rw [List.foldl_cons, (ih _).1, (ih _).2]
      exact hset

/-! ## A run -/

theorem perform_specs (fs : Filters) (action : Action) :
    (fs.perform action).2.specs = fs.specs := by
  cases action with
  | assign changes source => exact assign_specs fs changes source
  | read params source => exact assign_specs fs _ source
  | setChoices key choices => exact setChoices_specs fs key choices
  | onValues _ | onChoices _ | close => rfl

/-- Values are trimmed when they are set, and by nothing else that happens. -/
theorem perform_normal {fs : Filters} (h : fs.Normal) (action : Action) :
    (fs.perform action).2.Normal := by
  cases action with
  | assign changes source => exact assign_normal h changes source
  | read params source => exact assign_normal h _ source
  | setChoices key choices =>
      show (fs.setChoices key choices).2.Normal
      rw [normal_iff_slots, (setChoices_keeps fs key choices).1]
      exact normal_iff_slots.1 h
  | onValues _ | onChoices _ | close => exact h

theorem run_specs (fs : Filters) (actions : List Action) : (fs.run actions).specs = fs.specs := by
  induction actions generalizing fs with
  | nil => rfl
  | cons action rest ih => exact (ih (fs.perform action).2).trans (perform_specs fs action)

theorem run_normal {fs : Filters} (h : fs.Normal) (actions : List Action) :
    (fs.run actions).Normal := by
  induction actions generalizing fs with
  | nil => exact h
  | cons action rest ih => exact ih (perform_normal h action)

end Filters

end RecordSearch
