import Mathlib.Data.List.Forall2
import RecordSearch.Proofs.Filters.Announcements
import RecordSearch.Proofs.Filters.Restoring

/-!
# Merging changes and replacing values

Filters are changed in two ways. An assignment merges: it names the fields that
it means, by any of their keys and as often as it likes, and leaves the others
alone. Parameters replace: they say something about every field, if only that it
is unset, so what was there before is gone.

Both are described by what they leave in each field and by nothing else, since
the answer, the announcement and everything that can be read follow from that.
The answer deserves a proof of its own. It compares the values in effect, and
these are none of the things that others get to see; that it tells exactly
whether the values for a query, the parameters for an address or the value of
some key have changed needs all three to tell the values in effect.
-/

namespace RecordSearch

/-- The second state of a field is the first after changes: the last change that
addresses the field, by its name or its alias, decides, and without one the
field stays as it is. -/
inductive FieldState.Receives (changes : Assignments) (field : FieldState) : FieldState → Prop
  | last {before after : Assignments} {change : String × Option String}
      (hsplit : changes = before ++ change :: after)
      (hkey : field.spec.hasKey change.1 = true)
      (hlater : ∀ later ∈ after, field.spec.hasKey later.1 = false) :
      Receives changes field { field with value := Text.normalize? change.2 }
  | none (hkeys : ∀ change ∈ changes, field.spec.hasKey change.1 = false) :
      Receives changes field field

theorem FieldState.receives_after (changes : Assignments) (field : FieldState) :
    field.Receives changes (field.after changes) := by
  rw [after, valueAfter]
  cases hfind : changes.reverse.find? fun change => field.spec.hasKey change.1 with
  | none =>
      rw [List.find?_eq_none] at hfind
      exact .none fun change hchange =>
        eq_false_of_ne_true (hfind change (List.mem_reverse.2 hchange))
  | some change =>
      obtain ⟨hkey, later, earlier, hreverse, hlater⟩ := List.find?_eq_some_iff_append.1 hfind
      have hsplit : changes = earlier.reverse ++ change :: later.reverse := by
        rw [← List.reverse_reverse changes, hreverse]
        simp
      refine .last hsplit hkey fun other hother => ?_
      simpa using hlater other (List.mem_reverse.1 hother)

/-- What parameters say about a declared field: its value under its name or, only
if they do not have the name, under its alias, and nothing without both. -/
inductive FieldSpec.Given (spec : FieldSpec) (params : Parameters) : Option String → Prop
  | name {raw : String} (hname : params.get? spec.name = some raw) :
      Given spec params (Text.normalize raw)
  | alias {key raw : String} (hname : spec.name ∉ params.keys)
      (halias : spec.aliasKey = some key) (hkey : params.get? key = some raw) :
      Given spec params (Text.normalize raw)
  | nothing (hkeys : ∀ key ∈ spec.keys, key ∉ params.keys) : Given spec params none

namespace Parameters

theorem get?_eq_none_iff {p : Parameters} {key : String} :
    p.get? key = none ↔ key ∉ p.keys := by
  rw [get?, Option.map_eq_none_iff, List.find?_eq_none, keys, List.mem_map]
  constructor
  · rintro h ⟨pair, hpair, rfl⟩
    exact h pair hpair (decide_eq_true rfl)
  · intro h pair hpair hkey
    exact h ⟨pair, hpair, of_decide_eq_true hkey⟩

/-- The parameters under some keys, as often and in the order in which they are
there. -/
def only (p : Parameters) (keys : List String) : Parameters :=
  ⟨p.pairs.filter (·.1 ∈ keys)⟩

theorem get?_only {p : Parameters} {keys : List String} {key : String} (h : key ∈ keys) :
    (p.only keys).get? key = p.get? key := by
  rw [get?, only, List.find?_filter, get?]
  congr 2
  funext pair
  by_cases hkey : pair.1 = key
  · simp [hkey, h]
  · simp [hkey]

end Parameters

theorem FieldSpec.given_parameterFor (spec : FieldSpec) (params : Parameters) :
    spec.Given params (Text.normalize? (Filters.parameterFor params spec)) := by
  rw [Filters.parameterFor]
  cases hname : params.get? spec.name with
  | some raw =>
      rw [Option.some_or]
      exact .name hname
  | none =>
      have hunnamed := Parameters.get?_eq_none_iff.1 hname
      rw [Option.none_or]
      cases halias : spec.aliasKey with
      | none => exact .nothing (by simpa [keys, halias] using hunnamed)
      | some key =>
          rw [Option.bind_some]
          cases hkey : params.get? key with
          | some raw => exact .alias hunnamed halias hkey
          | none =>
              have hneither : spec.name ∉ params.keys ∧ key ∉ params.keys :=
                ⟨hunnamed, Parameters.get?_eq_none_iff.1 hkey⟩
              exact .nothing (by simpa [keys, halias] using hneither)

namespace Filters

variable {fs gs : Filters}

/-! ## What there is to see -/

theorem addressPatch_eq_of_standings (h : fs.standings = gs.standings) :
    fs.addressPatch = gs.addressPatch := by
  have hread (hs : Filters) : hs.addressPatch = hs.standings.flatMap fun s =>
      (s.1.name, hs.parameters.get? s.1.name) ::
        s.1.aliasKey.toList.map fun key => (key, none) := by
    rw [addressPatch, standings, List.flatMap_map]
  rw [hread, hread, h, parameters_eq_of_standings h]

theorem effectives_eq_iff (hspecs : gs.specs = fs.specs) :
    gs.effectives = fs.effectives ↔ ∀ key, gs.value? key = fs.value? key := by
  have hread (hs : Filters) : hs.effectives = hs.specs.map fun spec => hs.value? spec.name := by
    rw [effectives, specs, List.map_map]
    exact List.map_congr_left fun field hfield => (value?_name hfield).symm
  constructor
  · exact fun h => value?_eq_of_standings (standings_eq_of_effectives hspecs h)
  · intro h
    rw [hread, hread, hspecs]
    exact List.map_congr_left fun spec _ => h spec.name

/-! ## Merging -/

/-- What changes that were accepted leave, and how they were answered: whether
something changed is told and announced, and can be seen in any of the ways in
which values are read. -/
structure Merged (changes : Assignments) (source : Provenance) (fs : Filters)
    (changed : Bool) (gs : Filters) : Prop where
  fields : List.Forall₂ (FieldState.Receives changes) fs.fields gs.fields
  choicesFeed : gs.choicesFeed = fs.choicesFeed
  valueFeed : gs.valueFeed =
    if changed then fs.valueFeed.publish ⟨gs.values, source⟩ else fs.valueFeed
  values : changed = true ↔ gs.values ≠ fs.values
  parameters : changed = true ↔ gs.parameters ≠ fs.parameters
  value : changed = true ↔ ∃ key, gs.value? key ≠ fs.value? key
  /-- Without a change nobody can tell that there was an assignment. -/
  unchanged : changed = false → ReadsAs fs gs ∧ (∀ key, gs.isMoved key = fs.isMoved key) ∧
    gs.addressPatch = fs.addressPatch

theorem forall₂_after (changes : Assignments) (fields : List FieldState) :
    List.Forall₂ (FieldState.Receives changes) fields (fields.map (·.after changes)) := by
  rw [List.forall₂_map_right_iff, List.forall₂_same]
  exact fun field _ => field.receives_after changes

theorem merged_assign (hopen : fs.isClosed = false) {changes : Assignments}
    (hknown : ∀ change ∈ changes, fs.contains change.1 = true) (source : Provenance) :
    ∃ changed gs, fs.assign changes source = (.ok changed, gs) ∧
      Merged changes source fs changed gs := by
  have hspecs : (fs.assign changes source).2.specs = fs.specs := assign_specs fs changes source
  have hanswer := assign_fst hopen hknown source
  refine ⟨_, _, Prod.ext hanswer rfl, ?_, assign_choicesFeed fs changes source, ?_, ?_, ?_, ?_, ?_⟩
  · rw [assign_fields_of_ok hanswer]
    exact forall₂_after changes fs.fields
  · rw [assign_valueFeed, hanswer]
    cases decide ((fs.assign changes source).2.effectives ≠ fs.effectives) with
    | true => rfl
    | false => rfl
  · rw [decide_eq_true_iff, Ne, ← values_eq_iff hspecs]
  · rw [decide_eq_true_iff, Ne, ← parameters_eq_iff hspecs]
  · rw [decide_eq_true_iff, Ne, effectives_eq_iff hspecs, not_forall]
  · intro hsame
    have hstandings : (fs.assign changes source).2.standings = fs.standings :=
      standings_eq_of_effectives hspecs (by simpa using hsame)
    exact ⟨readsAs_of_standings hstandings, isMoved_eq_of_standings hstandings,
      addressPatch_eq_of_standings hstandings⟩

/-- An assignment is refused by closed filters, or for the first key that
addresses no field, and then nothing has happened; or else it goes through. -/
theorem assign_merges (fs : Filters) (changes : Assignments) (source : Provenance) :
    (fs.isClosed = true ∧ fs.assign changes source = (.error .disposed, fs)) ∨
    (fs.isClosed = false ∧ ∃ before change after, changes = before ++ change :: after ∧
      (∀ known ∈ before, fs.contains known.1 = true) ∧ fs.contains change.1 = false ∧
      fs.assign changes source = (.error (.unknownField change.1), fs)) ∨
    (fs.isClosed = false ∧ (∀ change ∈ changes, fs.contains change.1 = true) ∧
      ∃ changed gs, fs.assign changes source = (.ok changed, gs) ∧
        Merged changes source fs changed gs) := by
  cases hclosed : fs.isClosed with
  | true => exact .inl ⟨rfl, if_pos hclosed⟩
  | false =>
      cases hfind : changes.find? fun change => !fs.contains change.1 with
      | some change =>
          obtain ⟨hunknown, before, after, hsplit, hbefore⟩ :=
            List.find?_eq_some_iff_append.1 hfind
          refine .inr (.inl ⟨rfl, before, change, after, hsplit, ?_, by simpa using hunknown, ?_⟩)
          · intro known hmem
            simpa using hbefore known hmem
          · rw [assign, hclosed, if_neg Bool.false_ne_true, hfind]
      | none =>
          have hknown : ∀ change ∈ changes, fs.contains change.1 = true := by
            simpa using List.find?_eq_none.1 hfind
          exact .inr (.inr ⟨rfl, hknown, merged_assign hclosed hknown source⟩)

/-! ## Replacing -/

/-- What is left of filters that have read parameters: what these say, field by
field. Reading them once more changes nothing. -/
structure Replaced (specs : List FieldSpec) (params : Parameters) (gs : Filters) : Prop where
  fields : List.Forall₂ (fun spec field => field.spec = spec ∧ spec.Given params field.value)
    specs gs.fields
  again : ∀ source, (gs.readParameters params source).1 = .ok false

theorem readParameters_isClosed (fs : Filters) (params : Parameters) (source : Provenance) :
    (fs.readParameters params source).2.isClosed = fs.isClosed :=
  assign_isClosed fs (fs.assignmentsFrom params) source

theorem readParameters_specs (fs : Filters) (params : Parameters) (source : Provenance) :
    (fs.readParameters params source).2.specs = fs.specs :=
  assign_specs fs (fs.assignmentsFrom params) source

theorem replaced_readParameters (hopen : fs.isClosed = false) (params : Parameters)
    (source : Provenance) :
    Replaced fs.specs params (fs.readParameters params source).2 := by
  refine ⟨?_, fun again => ?_⟩
  · rw [readParameters_fields hopen, specs, List.forall₂_map_left_iff,
      List.forall₂_map_right_iff, List.forall₂_same]
    intro field hfield
    refine ⟨rfl, ?_⟩
    show field.spec.Given params (field.valueAfter _)
    rw [valueAfter_assignmentsFrom hfield]
    exact field.spec.given_parameterFor params
  · have hsame : (fs.readParameters params source).2.reading params =
        (fs.readParameters params source).2.effectives := by
      rw [readParameters_effectives hopen,
        reading_eq_of_specs (readParameters_specs fs params source)]
    rw [readParameters_fst ((readParameters_isClosed fs params source).trans hopen), hsame]
    simp

theorem readsAs_readParameters (hspecs : gs.specs = fs.specs) (hfs : fs.isClosed = false)
    (hgs : gs.isClosed = false) (params : Parameters) (source source' : Provenance) :
    ReadsAs (fs.readParameters params source).2 (gs.readParameters params source').2 := by
  refine readsAs_of_standings (standings_eq_of_effectives ?_ ?_)
  · rw [readParameters_specs, readParameters_specs, hspecs]
  · rw [readParameters_effectives hgs, readParameters_effectives hfs, reading_eq_of_specs hspecs]

/-- Parameters under keys that address no field are passed over. -/
theorem readParameters_only (fs : Filters) (params : Parameters) (source : Provenance) :
    fs.readParameters (params.only (fs.specs.flatMap FieldSpec.keys)) source =
      fs.readParameters params source := by
  have hassignments : fs.assignmentsFrom (params.only (fs.specs.flatMap FieldSpec.keys)) =
      fs.assignmentsFrom params := by
    refine List.map_congr_left fun spec hspec => ?_
    have hget : ∀ key ∈ spec.keys,
        (params.only (fs.specs.flatMap FieldSpec.keys)).get? key = params.get? key :=
      fun key hkey => Parameters.get?_only (List.mem_flatMap.2 ⟨spec, hspec, hkey⟩)
    rw [parameterFor, parameterFor, hget spec.name List.mem_cons_self]
    cases halias : spec.aliasKey with
    | none => rfl
    | some key =>
        rw [Option.bind_some, Option.bind_some, hget key (by simp [FieldSpec.keys, halias])]
  rw [readParameters, readParameters, hassignments]

/-- Whatever has been done to filters before, parameters that are read leave the
same, and it can be told from the declarations and the parameters alone. -/
theorem readParameters_replaces {specs : List FieldSpec} {start : Filters}
    (hstart : ofSpecs specs = .ok start) {actions actions' : List Action}
    (hopen : (start.run actions).isClosed = false)
    (hopen' : (start.run actions').isClosed = false)
    (params : Parameters) (source source' : Provenance) :
    ∃ changed changed' gs gs',
      (start.run actions).readParameters params source = (.ok changed, gs) ∧
      (start.run actions').readParameters params source' = (.ok changed', gs') ∧
      Replaced specs params gs ∧ Replaced specs params gs' ∧ ReadsAs gs gs' ∧
      (start.run actions).readParameters (params.only (specs.flatMap FieldSpec.keys)) source =
        (.ok changed, gs) := by
  have hdeclared (actions : List Action) : (start.run actions).specs = specs :=
    (run_specs start actions).trans (ofSpecs_specs hstart)
  have hanswer := readParameters_fst hopen params source
  have hanswer' := readParameters_fst hopen' params source'
  have hreplaced := replaced_readParameters hopen params source
  have hreplaced' := replaced_readParameters hopen' params source'
  have honly := readParameters_only (start.run actions) params source
  rw [hdeclared] at hreplaced hreplaced' honly
  have hsame := readsAs_readParameters ((hdeclared actions').trans (hdeclared actions).symm)
    hopen hopen' params source source'
  exact ⟨_, _, _, _, Prod.ext hanswer rfl, Prod.ext hanswer' rfl, hreplaced, hreplaced', hsame,
    honly.trans (Prod.ext hanswer rfl)⟩

/-- The text is there under both of its keys, blank where the name comes first. -/
def shadowed : Parameters :=
  .parse "lang=en&query=b&q=+&q=a&page=2"

/-- A bookmark that was opened and an untouched form agree on it, without a text. -/
theorem readParameters_replaces_shadowed :
    ∃ start changed changed' gs gs', ofSpecs standardFields = .ok start ∧
      (start.run bookmarked).isClosed = false ∧ (start.run []).isClosed = false ∧
      (start.run bookmarked).readParameters shadowed .address = (.ok changed, gs) ∧
      (start.run []).readParameters shadowed .user = (.ok changed', gs') ∧
      Replaced standardFields shadowed gs ∧ ReadsAs gs gs' ∧
      gs.parameters.encoded = "page=2" := by
  obtain ⟨start, hstart, hcheck⟩ := exists_ok_of_check (ofSpecs standardFields)
    (fun start => decide ((start.run bookmarked).isClosed = false ∧
      (start.run []).isClosed = false ∧
      ((start.run bookmarked).readParameters shadowed .address).2.parameters.encoded = "page=2"))
    (by decide +kernel)
  obtain ⟨hopen, hopen', hencoded⟩ := of_decide_eq_true hcheck
  obtain ⟨changed, changed', gs, gs', hread, hread', hreplaced, _, hsame, _⟩ :=
    readParameters_replaces hstart hopen hopen' shadowed .address .user
  rw [hread] at hencoded
  exact ⟨start, changed, changed', gs, gs', hstart, hopen, hopen', hread, hread', hreplaced,
    hsame, hencoded⟩

end Filters

end RecordSearch
