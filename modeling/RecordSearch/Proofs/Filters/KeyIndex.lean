import RecordSearch.Proofs.Filters.Values

/-!
# An index of the keys

Filters find a field by asking each one whether a key addresses it, which leaves
no doubt about what is found. Whoever wants the place of a field in one step
keeps an index: a map from every key to the place of its field, filled while the
declarations are gone through, and given up at the first key that it has already.

Here the index is built that way, declaration by declaration and key by key, and
it is shown to be no more than a faster way to the same answers. It is refused
exactly when the filters are, for the same key, which is the first in the order
of declaration to be there for the second time. Where it is not refused, a key
leads to one place or to none, and everything that takes a key reads and writes
the field at that place.
-/

namespace RecordSearch

/-! ## The first key that repeats -/

/-- The first of some keys that stood earlier among them. -/
def FirstRepeat (keys : List String) (key : String) : Prop :=
  ∃ before after, keys = before ++ key :: after ∧ before.Nodup ∧ key ∈ before

theorem FirstRepeat.not_nodup {keys : List String} {key : String} (h : FirstRepeat keys key) :
    ¬keys.Nodup := by
  obtain ⟨before, after, rfl, _, hmem⟩ := h
  intro hnodup
  exact (List.nodup_append.1 hnodup).2.2 key hmem key List.mem_cons_self rfl

theorem split_of_firstRepeat? {seen keys : List String} {key : String}
    (h : firstRepeat? seen keys = some key) :
    ∃ before after, keys = before ++ key :: after ∧ before.Nodup ∧
      (∀ k ∈ before, k ∉ seen) ∧ (key ∈ seen ∨ key ∈ before) := by
  induction keys generalizing seen with
  | nil => cases h
  | cons k rest ih =>
      rw [firstRepeat?] at h
      split at h
      · next hseen =>
          cases h
          exact ⟨[], rest, rfl, .nil, by simp, .inl hseen⟩
      · next hfresh =>
          obtain ⟨before, after, rfl, hnodup, hapart, hkey⟩ := ih h
          refine ⟨k :: before, after, rfl, List.nodup_cons.2 ⟨?_, hnodup⟩, ?_, ?_⟩
          · exact fun hmem => hapart k hmem List.mem_cons_self
          · intro other hother
            rcases List.mem_cons.1 hother with rfl | hother
            · exact hfresh
            · exact fun hmem => hapart other hother (List.mem_cons_of_mem k hmem)
          · rcases hkey with hkey | hkey
            · rcases List.mem_cons.1 hkey with rfl | hkey
              · exact .inr List.mem_cons_self
              · exact .inl hkey
            · exact .inr (List.mem_cons_of_mem k hkey)

theorem firstRepeat_of_firstRepeat? {keys : List String} {key : String}
    (h : firstRepeat? [] keys = some key) : FirstRepeat keys key := by
  obtain ⟨before, after, hsplit, hnodup, _, hseen | hkey⟩ := split_of_firstRepeat? h
  · cases hseen
  · exact ⟨before, after, hsplit, hnodup, hkey⟩

theorem firstRepeat?_append (seen keys more : List String) :
    firstRepeat? seen (keys ++ more) =
      (firstRepeat? seen keys).or (firstRepeat? (keys.reverse ++ seen) more) := by
  induction keys generalizing seen with
  | nil => rfl
  | cons key rest ih =>
      rw [List.cons_append, firstRepeat?, firstRepeat?]
      split
      · rfl
      · rw [ih, List.reverse_cons, List.append_assoc, List.singleton_append]

/-! ## Building the index -/

/-- The place of the field that a key addresses. -/
abbrev KeyIndex := KeyMap Nat

namespace KeyIndex

/-- Enters keys one after another, all for one place. -/
def enter (place : Nat) (index : KeyIndex) : List String → Except SearchError KeyIndex
  | [] => .ok index
  | key :: rest =>
    if index.contains key then .error (.duplicateField key)
    else enter place (index.insert key place) rest

/-- Enters the keys of declarations, the first of which gets `place`. -/
def extend (place : Nat) (index : KeyIndex) : List FieldSpec → Except SearchError KeyIndex
  | [] => .ok index
  | spec :: rest =>
    match enter place index spec.keys with
    | .error e => .error e
    | .ok index => extend (place + 1) index rest

/-- The index of declarations, or the first key that it had already. -/
def ofSpecs (specs : List FieldSpec) : Except SearchError KeyIndex :=
  extend 0 .empty specs

/-- The keys of declarations with their places, the first of which is `place`. -/
def entries (place : Nat) (specs : List FieldSpec) : List (String × Nat) :=
  (specs.zipIdx place).flatMap fun placed => placed.1.keys.map (·, placed.2)

/-- An index with more entries. -/
def insertAll (index : KeyIndex) (pairs : List (String × Nat)) : KeyIndex :=
  pairs.foldl (fun index pair => index.insert pair.1 pair.2) index

/-- The index has the keys of a list. -/
def Holds (index : KeyIndex) (seen : List String) : Prop :=
  ∀ key, index.contains key = true ↔ key ∈ seen

theorem holds_insert {index : KeyIndex} {seen : List String} (h : index.Holds seen)
    (key : String) (place : Nat) : Holds (index.insert key place) (key :: seen) := by
  intro k
  rw [KeyMap.contains_eq, KeyMap.get?_insert, List.mem_cons, ← h k, KeyMap.contains_eq]
  by_cases hk : k = key
  · simp [hk]
  · simp [hk]

theorem holds_insertAll {index : KeyIndex} {seen : List String} (h : index.Holds seen)
    (keys : List String) (place : Nat) :
    Holds (index.insertAll (keys.map (·, place))) (keys.reverse ++ seen) := by
  induction keys generalizing index seen with
  | nil => exact h
  | cons key rest ih =>
      rw [List.reverse_cons, List.append_assoc, List.singleton_append]
      exact ih (holds_insert h key place)

theorem enter_eq {index : KeyIndex} {seen : List String} (h : index.Holds seen) (place : Nat)
    (keys : List String) :
    index.enter place keys =
      match firstRepeat? seen keys with
      | some key => .error (.duplicateField key)
      | none => .ok (index.insertAll (keys.map (·, place))) := by
  induction keys generalizing index seen with
  | nil => rfl
  | cons key rest ih =>
      rw [enter, firstRepeat?]
      by_cases hkey : key ∈ seen
      · rw [if_pos hkey, if_pos ((h key).2 hkey)]
      · rw [if_neg hkey, if_neg (mt (h key).1 hkey), ih (holds_insert h key place)]
        rfl

/-- The loop over the declarations is a loop over all of their keys. -/
theorem extend_eq {index : KeyIndex} {seen : List String} (h : index.Holds seen) (place : Nat)
    (specs : List FieldSpec) :
    index.extend place specs =
      match firstRepeat? seen (specs.flatMap FieldSpec.keys) with
      | some key => .error (.duplicateField key)
      | none => .ok (index.insertAll (entries place specs)) := by
  induction specs generalizing index seen place with
  | nil => rfl
  | cons spec rest ih =>
      rw [extend, enter_eq h, List.flatMap_cons, firstRepeat?_append]
      cases hfirst : firstRepeat? seen spec.keys with
      | some key => rfl
      | none =>
          dsimp only
          rw [ih (holds_insertAll h spec.keys place), Option.none_or, entries, entries,
            List.zipIdx_cons, List.flatMap_cons, insertAll, insertAll, insertAll,
            List.foldl_append]

theorem ofSpecs_eq (specs : List FieldSpec) :
    ofSpecs specs =
      match firstRepeat? [] (specs.flatMap FieldSpec.keys) with
      | some key => .error (.duplicateField key)
      | none => .ok (.ofList (entries 0 specs)) :=
  extend_eq (fun key => by simp [KeyMap.contains_eq]) 0 specs

theorem mem_entries {specs : List FieldSpec} {key : String} {i : Nat} :
    (key, i) ∈ entries 0 specs ↔ ∃ spec, specs[i]? = some spec ∧ spec.hasKey key = true := by
  simp only [entries, List.mem_flatMap, List.mem_map, Prod.mk.injEq, Prod.exists,
    List.mem_zipIdx_iff_getElem?, FieldSpec.hasKey_iff]
  constructor
  · rintro ⟨spec, _, hspec, _, hkey, rfl, rfl⟩
    exact ⟨spec, hspec, hkey⟩
  · rintro ⟨spec, hspec, hkey⟩
    exact ⟨spec, i, hspec, key, hkey, rfl, rfl⟩

/-- A key of the index leads to the one place whose field it addresses. -/
def Leads (index : KeyIndex) (specs : List FieldSpec) : Prop :=
  ∀ key i, index.get? key = some i ↔ ∃ spec, specs[i]? = some spec ∧ spec.hasKey key = true

/-- Changes the field that a key leads to. -/
def modify (index : KeyIndex) (key : String) (f : FieldState → FieldState)
    (fields : List FieldState) : List FieldState :=
  match index.get? key with
  | some i => fields.modify i f
  | none => fields

theorem modify_of_get? {index : KeyIndex} {key : String} {i : Nat} (h : index.get? key = some i)
    (f : FieldState → FieldState) (fields : List FieldState) :
    index.modify key f fields = fields.modify i f := by
  rw [modify, h]

end KeyIndex

namespace Filters

variable {fs : Filters} {index : KeyIndex}

theorem leads_ofList (fs : Filters) :
    KeyIndex.Leads (.ofList (KeyIndex.entries 0 fs.specs)) fs.specs := by
  intro key i
  rw [← KeyIndex.mem_entries]
  refine ⟨KeyMap.mem_of_get?_ofList, fun hentry => ?_⟩
  -- The index may have been written at the key again, but only with the same place.
  obtain ⟨j, hj⟩ := KeyMap.exists_get?_ofList hentry
  obtain ⟨spec, hi, hkey⟩ := KeyIndex.mem_entries.1 hentry
  obtain ⟨other, hother, hkey'⟩ := KeyIndex.mem_entries.1 (KeyMap.mem_of_get?_ofList hj)
  rw [specs, List.getElem?_map, Option.map_eq_some_iff] at hi hother
  obtain ⟨field, hfield, rfl⟩ := hi
  obtain ⟨field', hfield', rfl⟩ := hother
  rw [hj, position_eq_of_hasKey hfield' hfield hkey' hkey]

/-! ## Going through the index -/

theorem leads_iff (h : index.Leads fs.specs) {key : String} {i : Nat} :
    index.get? key = some i ↔
      ∃ field, fs.fields[i]? = some field ∧ field.spec.hasKey key = true := by
  rw [h key i, specs]
  constructor
  · rintro ⟨spec, hspec, hkey⟩
    rw [List.getElem?_map, Option.map_eq_some_iff] at hspec
    obtain ⟨field, hfield, rfl⟩ := hspec
    exact ⟨field, hfield, hkey⟩
  · rintro ⟨field, hfield, hkey⟩
    exact ⟨field.spec, by rw [List.getElem?_map, hfield]; rfl, hkey⟩

theorem hasKey_iff_get? (h : index.Leads fs.specs) {i : Nat} {field : FieldState}
    (hfield : fs.fields[i]? = some field) (key : String) :
    field.spec.hasKey key = true ↔ index.get? key = some i := by
  rw [leads_iff h]
  constructor
  · exact fun hkey => ⟨field, hfield, hkey⟩
  · rintro ⟨other, hother, hkey⟩
    obtain rfl := Option.some.inj (hfield.symm.trans hother)
    exact hkey

theorem field?_eq_index (h : index.Leads fs.specs) (key : String) :
    fs.field? key = (index.get? key).bind (fs.fields[·]?) := by
  refine Option.ext fun field => ?_
  rw [field?_eq_some_iff, Option.bind_eq_some_iff]
  constructor
  · rintro ⟨hfield, hkey⟩
    obtain ⟨i, hi⟩ := List.getElem?_of_mem hfield
    exact ⟨i, (hasKey_iff_get? h hi key).1 hkey, hi⟩
  · rintro ⟨i, hi, hfield⟩
    exact ⟨List.mem_of_getElem? hfield, (hasKey_iff_get? h hfield key).2 hi⟩

theorem contains_eq_index (h : index.Leads fs.specs) (key : String) :
    fs.contains key = index.contains key := by
  rw [KeyMap.contains_eq, contains]
  cases hget : index.get? key with
  | some i =>
      obtain ⟨field, hfield, hkey⟩ := (leads_iff h).1 hget
      exact List.any_eq_true.2 ⟨field, List.mem_of_getElem? hfield, hkey⟩
  | none =>
      refine List.any_eq_false.2 fun field hfield hkey => ?_
      obtain ⟨i, hi⟩ := List.getElem?_of_mem hfield
      rw [(hasKey_iff_get? h hi key).1 hkey] at hget
      cases hget

/-- Changing every field that a key addresses is changing the one it leads to. -/
theorem map_eq_modify (h : index.Leads fs.specs) (key : String) (f : FieldState → FieldState) :
    fs.fields.map (fun field => if field.spec.hasKey key then f field else field) =
      index.modify key f fs.fields := by
  -- Place by place, since a list is changed by the key here and by a place there.
  refine List.ext_getElem? fun j => ?_
  rw [List.getElem?_map]
  cases hfield : fs.fields[j]? with
  | none =>
      rw [KeyIndex.modify]
      split
      · rw [List.getElem?_modify, hfield]
        rfl
      · rw [hfield]
        rfl
  | some field =>
      have hkey := hasKey_iff_get? h hfield key
      rw [KeyIndex.modify]
      split
      · next i hget =>
          rw [List.getElem?_modify, hfield]
          by_cases hij : i = j
          · simp [hkey, hget, hij]
          · simp [hkey, hget, hij]
      · next hget => simp [hkey, hget, hfield]

theorem mapFields_specs (fs : Filters) (f : FieldState → FieldState)
    (h : ∀ field, (f field).spec = field.spec) : (fs.mapFields f h).specs = fs.specs := by
  rw [specs, mapFields, List.map_map]
  exact List.map_congr_left fun field _ => h field

theorem writeAll_fields_index (h : index.Leads fs.specs) (changes : Assignments) :
    (fs.writeAll changes).fields = changes.foldl (fun fields change =>
      index.modify change.1 (fun field => { field with value := Text.normalize? change.2 })
        fields) fs.fields := by
  induction changes generalizing fs with
  | nil => rfl
  | cons change rest ih =>
      rw [writeAll_cons, List.foldl_cons, ih (by rwa [write, mapFields_specs]), write_fields,
        map_eq_modify h]

/-! ## Answers through the index -/

/-- A key leads to the field at a place: no other field has the key, and this is
the field that is read and written under it. -/
structure LeadsTo (fs : Filters) (key : String) (i : Nat) (field : FieldState) : Prop where
  place : fs.fields[i]? = some field
  accepts : field.spec.hasKey key = true
  only : ∀ j other, fs.fields[j]? = some other → other.spec.hasKey key = true → j = i
  spec : fs.spec? key = some field.spec
  contains : fs.contains key = true
  value : fs.value? key = field.effective
  moved : fs.isMoved key = field.isMoved
  choices : fs.choices key = field.choices
  setChoices : ∀ choices, fs.isClosed = false →
    (fs.setChoices key choices).1 = .ok () ∧
    (fs.setChoices key choices).2.fields =
      fs.fields.modify i (fun field => { field with fetched := some choices }) ∧
    (fs.setChoices key choices).2.choicesFeed =
      if field.fetched = some choices then fs.choicesFeed
      else fs.choicesFeed.publish ⟨field.spec.name, choices⟩

/-- A key leads nowhere: no field has it, and nothing is read or written under it. -/
structure LeadsNowhere (fs : Filters) (key : String) : Prop where
  accepts : ∀ spec ∈ fs.specs, spec.hasKey key = false
  spec : fs.spec? key = none
  contains : fs.contains key = false
  value : fs.value? key = none
  moved : fs.isMoved key = false
  choices : fs.choices key = []
  setChoices : ∀ choices, fs.isClosed = false →
    fs.setChoices key choices = (.error (.unknownField key), fs)

/-- Whoever has the index and the list of fields has no use for anything else to
find a field. -/
structure Indexed (fs : Filters) (index : KeyIndex) : Prop where
  found : ∀ {key i}, index.get? key = some i → ∃ field, fs.LeadsTo key i field
  missed : ∀ {key}, index.get? key = none → fs.LeadsNowhere key
  updated : ∀ {changes} source, fs.isClosed = false →
    (∀ change ∈ changes, index.contains change.1 = true) →
    ∃ changed, (fs.assign changes source).1 = .ok changed ∧
      (fs.assign changes source).2.fields = changes.foldl (fun fields change =>
        index.modify change.1 (fun field => { field with value := Text.normalize? change.2 })
          fields) fs.fields
  refused : ∀ {before change after} source, fs.isClosed = false →
    (∀ known ∈ before, index.contains known.1 = true) → index.contains change.1 = false →
    fs.assign (before ++ change :: after) source = (.error (.unknownField change.1), fs)

theorem setChoices_of_field? (hopen : fs.isClosed = false) {key : String} {field : FieldState}
    (hfield : fs.field? key = some field) (choices : List Choice) :
    (fs.setChoices key choices).1 = .ok () ∧
    (fs.setChoices key choices).2.fields = fs.fields.map (fun other =>
      if other.spec.hasKey key then { other with fetched := some choices } else other) ∧
    (fs.setChoices key choices).2.choicesFeed =
      if field.fetched = some choices then fs.choicesFeed
      else fs.choicesFeed.publish ⟨field.spec.name, choices⟩ := by
  rw [setChoices, hopen, if_neg Bool.false_ne_true, hfield]
  dsimp only
  by_cases hsame : field.fetched = some choices
  · rw [if_pos hsame, if_pos hsame]
    refine ⟨rfl, ?_, rfl⟩
    -- The choices are there already, and no other field has the key.
    refine (List.map_id _).symm.trans (List.map_congr_left fun other hother => ?_)
    split
    · next hkey =>
        obtain rfl := Option.some.inj
          (hfield.symm.trans (field?_eq_some_iff.2 ⟨hother, hkey⟩))
        rw [← hsame, id]
    · rfl
  · rw [if_neg hsame, if_neg hsame]
    exact ⟨rfl, rfl, rfl⟩

theorem leadsTo_of_get? (h : index.Leads fs.specs) {key : String} {i : Nat}
    (hget : index.get? key = some i) : ∃ field, fs.LeadsTo key i field := by
  obtain ⟨field, hplace, hkey⟩ := (leads_iff h).1 hget
  have hfield : fs.field? key = some field :=
    field?_eq_some_iff.2 ⟨List.mem_of_getElem? hplace, hkey⟩
  refine ⟨field, hplace, hkey, ?_, ?_, ?_, ?_, ?_, ?_, fun choices hopen => ?_⟩
  · exact fun j other hother hkey' => position_eq_of_hasKey hother hplace hkey' hkey
  · rw [spec?, hfield, Option.map_some]
  · rw [contains_eq_index h, KeyMap.contains_eq, hget]
    rfl
  · rw [value?, hfield, Option.bind_some]
  · rw [isMoved, hfield]
  · rw [Filters.choices, hfield]
  · have hmodify := map_eq_modify h key fun field => { field with fetched := some choices }
    rw [KeyIndex.modify_of_get? hget] at hmodify
    rw [← hmodify]
    exact setChoices_of_field? hopen hfield choices

theorem leadsNowhere_of_get? (h : index.Leads fs.specs) {key : String}
    (hget : index.get? key = none) : fs.LeadsNowhere key := by
  have hfield : fs.field? key = none := by rw [field?_eq_index h, hget, Option.bind_none]
  refine ⟨fun spec hspec => ?_, ?_, ?_, ?_, ?_, ?_, fun choices hopen => ?_⟩
  · obtain ⟨field, hmem, rfl⟩ := List.mem_map.1 hspec
    exact eq_false_of_ne_true fun hkey =>
      Option.some_ne_none _ ((field?_eq_some_iff.2 ⟨hmem, hkey⟩).symm.trans hfield)
  · rw [spec?, hfield, Option.map_none]
  · rw [contains_eq_index h, KeyMap.contains_eq, hget]
    rfl
  · rw [value?, hfield, Option.bind_none]
  · rw [isMoved, hfield]
  · rw [Filters.choices, hfield]
  · rw [setChoices, hopen, if_neg Bool.false_ne_true, hfield]

theorem indexed_of_leads (h : index.Leads fs.specs) : fs.Indexed index where
  found := leadsTo_of_get? h
  missed := leadsNowhere_of_get? h
  updated := by
    intro changes source hopen hknown
    have hanswer := assign_fst hopen
      (fun change hchange => (contains_eq_index h change.1).trans (hknown change hchange)) source
    exact ⟨_, hanswer, by
      rw [assign_fields_of_ok hanswer, ← writeAll_fields, writeAll_fields_index h]⟩
  refused := by
    intro before change after source hopen hknown hunknown
    have hfind : (before ++ change :: after).find? (fun change => !fs.contains change.1) =
        some change := by
      rw [List.find?_append, List.find?_eq_none.2, Option.none_or, List.find?_cons_of_pos]
      · rw [contains_eq_index h, hunknown]
        rfl
      · intro known hmem
        rw [contains_eq_index h, hknown known hmem]
        decide
    rw [assign, hopen, if_neg Bool.false_ne_true, hfind]

/-- Declarations are refused for the first key that repeats, and only for that. -/
theorem ofSpecs_cases (specs : List FieldSpec) :
    (∃ key, firstRepeat? [] (specs.flatMap FieldSpec.keys) = some key ∧
      FirstRepeat (specs.flatMap FieldSpec.keys) key ∧
      ofSpecs specs = .error (.duplicateField key)) ∨
    (firstRepeat? [] (specs.flatMap FieldSpec.keys) = none ∧
      (specs.flatMap FieldSpec.keys).Nodup ∧ ∃ start, ofSpecs specs = .ok start) := by
  rw [ofSpecs]
  split
  · next key hfirst => exact .inl ⟨key, hfirst, firstRepeat_of_firstRepeat? hfirst, rfl⟩
  · next hfirst => exact .inr ⟨hfirst, (nodup_of_firstRepeat? hfirst).1, _, rfl⟩

/-- Declarations are refused for the first key that repeats, by the filters and by
the index; or no key repeats, and then the index leads to the fields of the
filters in whatever state they come to be. -/
theorem ofSpecs_indexed (specs : List FieldSpec) :
    (¬(specs.flatMap FieldSpec.keys).Nodup ∧
      ∃ key, FirstRepeat (specs.flatMap FieldSpec.keys) key ∧
        ofSpecs specs = .error (.duplicateField key) ∧
        KeyIndex.ofSpecs specs = .error (.duplicateField key)) ∨
    ((specs.flatMap FieldSpec.keys).Nodup ∧
      ∃ start index, ofSpecs specs = .ok start ∧ KeyIndex.ofSpecs specs = .ok index ∧
        index.Leads specs ∧
        ∀ actions, (start.run actions).specs = specs ∧ (start.run actions).Indexed index) := by
  rw [KeyIndex.ofSpecs_eq]
  rcases ofSpecs_cases specs with ⟨key, hfirst, hrepeat, hspecs⟩ | ⟨hfirst, hnodup, start, hstart⟩
  · exact .inl ⟨hrepeat.not_nodup, key, hrepeat, hspecs, by rw [hfirst]⟩
  · have hrun (actions : List Action) : (start.run actions).specs = specs :=
      (run_specs start actions).trans (ofSpecs_specs hstart)
    have hleads : KeyIndex.Leads (.ofList (KeyIndex.entries 0 specs)) specs :=
      ofSpecs_specs hstart ▸ leads_ofList start
    refine .inr ⟨hnodup, start, _, hstart, by rw [hfirst], hleads, fun actions => ⟨hrun actions, ?_⟩⟩
    exact indexed_of_leads (by rwa [hrun])

/-- A field must not have its own name for an alias. -/
example : KeyIndex.ofSpecs [.named "q", { FieldSpec.named "page" with aliasKey := some "page" }] =
    .error (.duplicateField "page") := by
  rfl

end Filters

end RecordSearch
