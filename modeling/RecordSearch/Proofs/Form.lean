import RecordSearch.Form
import RecordSearch.Proofs.Filters.Values

/-!
# The form as a view of the filters

A form is filled from the filters and later copied back into them. It shows only
part of the fields, it shows defaults as if they were values, and what comes
back is trimmed, so neither way is the inverse of the other on the nose. What
holds instead are the two laws of a view.

Reading and then putting back is no change. A default that was only shown is
stored by it, in a field that stands for its default already; this is harmless
as long as the default survives the trimming. Putting and then reading shows
what was put, with the defaults filled in where nothing was.

Of the form nothing counts but that its texts are trimmed, and every form is of
this kind that was made by editing, by refilling and by marking.
-/

namespace RecordSearch

/-- Every default is trimmed and not blank. -/
def NormalDefaults (specs : List FieldSpec) : Prop :=
  ∀ spec ∈ specs, Text.normalize? spec.defaultValue = spec.defaultValue

instance (specs : List FieldSpec) : Decidable (NormalDefaults specs) :=
  inferInstanceAs (Decidable (∀ spec ∈ specs, _))

/-- A field after a form was put: one that is shown has what its control holds, a
hidden one is as it was. -/
def FieldState.filledFrom (field : FieldState) (form : Form) : FieldState :=
  if field.spec.hidden then field else { field with value := form.get? field.spec.name }

theorem FieldState.filledFrom_spec (field : FieldState) (form : Form) :
    (field.filledFrom form).spec = field.spec := by
  rw [filledFrom]
  split
  · rfl
  · rfl

theorem FieldState.filledFrom_of_shown {field : FieldState} (h : field.spec.hidden = false)
    (form : Form) :
    field.filledFrom form = { field with value := form.get? field.spec.name } := by
  rw [filledFrom, h, if_neg Bool.false_ne_true]

namespace Filters

variable {fs : Filters} {field : FieldState}

theorem mem_visibleSpecs (hfield : field ∈ fs.fields) :
    field.spec ∈ fs.visibleSpecs ↔ field.spec.hidden = false := by
  have hmem : field.spec ∈ fs.specs := List.mem_map_of_mem hfield
  rw [visibleSpecs, List.mem_filter]
  simp [hmem]

theorem exists_field_of_visible {spec : FieldSpec} (h : spec ∈ fs.visibleSpecs) :
    ∃ field ∈ fs.fields, field.spec = spec ∧ field.spec.hidden = false := by
  obtain ⟨field, hfield, rfl⟩ := List.mem_map.1 (List.mem_of_mem_filter h)
  exact ⟨field, hfield, rfl, (mem_visibleSpecs hfield).1 h⟩

/-- A value in effect is a value that was set, and so is trimmed, or a default. -/
theorem Normal.effective (h : fs.Normal) (hdefaults : NormalDefaults fs.specs)
    (hfield : field ∈ fs.fields) {v : String} (hv : field.effective = some v) :
    Text.normalize v = some v := by
  rw [FieldState.effective, FieldSpec.effective] at hv
  cases hvalue : field.value with
  | some text =>
      rw [hvalue, Option.some_or] at hv
      cases hv
      exact h field hfield v hvalue
  | none =>
      rw [hvalue, Option.none_or] at hv
      have hdefault := hdefaults field.spec (List.mem_map_of_mem hfield)
      rw [hv] at hdefault
      exact hdefault

end Filters

namespace Form

variable {fs gs start : Filters} {form : Form} {field : FieldState}

/-! ## Reading -/

/-- What a shown field has in effect stands in its control. -/
theorem get?_refill (hfield : field ∈ fs.fields) (hvisible : field.spec.hidden = false)
    (form : Form) : (form.refill fs).get? field.spec.name = field.effective := by
  have hmem := (Filters.mem_visibleSpecs hfield).2 hvisible
  rw [← Filters.value?_name hfield, get?, refill]
  exact KeyMap.get?_ofList_filterMap hmem fun spec _ hname => congrArg fs.value? hname

/-- A text in a form that was filled is in the control of a shown field, which has
it in effect. -/
theorem shown_of_get?_refill {name v : String} (h : (form.refill fs).get? name = some v) :
    ∃ field ∈ fs.fields, field.spec.name = name ∧ field.spec.hidden = false ∧
      field.effective = some v := by
  obtain ⟨spec, hspec, hentry⟩ := List.mem_filterMap.1 (KeyMap.mem_of_get?_ofList h)
  obtain ⟨w, hw, heq⟩ := Option.map_eq_some_iff.1 hentry
  cases heq
  obtain ⟨field, hfield, rfl, hvisible⟩ := Filters.exists_field_of_visible hspec
  exact ⟨field, hfield, rfl, hvisible, (Filters.value?_name hfield).symm.trans hw⟩

/-! ## Putting -/

theorem assignments_known (form : Form) (fs : Filters) :
    ∀ change ∈ form.assignments fs, fs.contains change.1 = true := by
  intro change hchange
  obtain ⟨spec, hspec, rfl⟩ := List.mem_map.1 hchange
  exact Filters.contains_name (List.mem_of_mem_filter hspec)

theorem valueAfter_assignments (hfield : field ∈ fs.fields) (form : Form) :
    field.valueAfter (form.assignments fs) =
      if field.spec.hidden = true then field.value
      else Text.normalize? (form.get? field.spec.name) := by
  have hown := Filters.find?_own hfield
    (fun spec (hspec : spec ∈ fs.visibleSpecs) => List.mem_of_mem_filter hspec)
    fun spec => form.get? spec.name
  rw [FieldState.valueAfter, assignments, hown]
  cases hhidden : field.spec.hidden with
  | true =>
      have hunseen : field.spec ∉ fs.visibleSpecs := by
        rw [Filters.mem_visibleSpecs hfield, hhidden]
        decide
      rw [if_neg hunseen, if_pos rfl]
  | false =>
      rw [if_pos ((Filters.mem_visibleSpecs hfield).2 hhidden), if_neg Bool.false_ne_true]

/-- Every text in the form is trimmed and not blank. -/
def Normal (form : Form) : Prop :=
  ∀ name v, form.get? name = some v → Text.normalize v = some v

theorem Normal.set (h : form.Normal) (field : String) (value : Option String) :
    (form.set field value).Normal := by
  intro name v hv
  rw [Form.set] at hv
  split at hv
  · next text htext =>
      rw [get?, KeyMap.get?_insert] at hv
      split at hv
      · cases hv
        exact Text.normalize?_of_eq_some htext
      · exact h name v hv
  · rw [get?, KeyMap.get?_erase] at hv
    split at hv
    · cases hv
    · exact h name v hv

theorem Normal.edit (h : form.Normal) (edit : Edit) : (form.edit edit).Normal := by
  cases edit with
  | control field value => exact h.set field value
  | text text => exact h.set textField (some text)
  | inactive state => exact h.set inactiveField (some state.keyword)
  | untouch => exact h

theorem normal_refill (hnormal : fs.Normal) (hdefaults : NormalDefaults fs.specs)
    (form : Form) : (form.refill fs).Normal := by
  intro name v hv
  obtain ⟨field, hfield, _, _, heff⟩ := shown_of_get?_refill hv
  exact hnormal.effective hdefaults hfield heff

theorem Normal.normalize?_get? (h : form.Normal) (name : String) :
    Text.normalize? (form.get? name) = form.get? name := by
  cases hget : form.get? name with
  | none => rfl
  | some v => exact h name v hget

theorem assign_assignments (hopen : fs.isClosed = false) (h : form.Normal)
    (source : Provenance) :
    ∃ changed gs, fs.assign (form.assignments fs) source = (.ok changed, gs) ∧
      gs.fields = fs.fields.map (·.filledFrom form) := by
  have hanswer := Filters.assign_fst hopen (form.assignments_known fs) source
  refine ⟨_, _, Prod.ext hanswer rfl, ?_⟩
  rw [Filters.assign_fields_of_ok hanswer]
  refine List.map_congr_left fun field hfield => ?_
  rw [FieldState.after, valueAfter_assignments hfield, FieldState.filledFrom]
  split
  · rfl
  · rw [h.normalize?_get?]

/-! ## The laws -/

/-- Forms over some filters: the blank one, and what becomes of it by editing,
by refilling it from the filters, whatever they have come to be, and by marking. -/
inductive Made (start : Filters) : Form → Prop
  | blank : Made start .empty
  | edited {form : Form} (h : Made start form) (edit : Edit) : Made start (form.edit edit)
  | refilled {form : Form} (h : Made start form) (actions : List Filters.Action) :
      Made start (form.refill (start.run actions))
  | touched {form : Form} (h : Made start form) (actions : List Filters.Action) :
      Made start (form.touchAll (start.run actions))

/-- What was read from filters is put back: nobody can tell, and a control is
filled exactly if its field has a value in effect. -/
structure PutBack (fs : Filters) (form : Form) (gs : Filters) : Prop where
  value : ∀ key, gs.value? key = fs.value? key
  valueFeed : gs.valueFeed = fs.valueFeed
  filled : ∀ spec ∈ fs.visibleSpecs,
    (form.refill fs).holds spec.name = true ↔ (fs.value? spec.name).isSome = true

/-- A form is put into filters: the shown fields have what it says, and it reads
the same afterwards, but for defaults in place of nothing, and nothing where no
field is shown. -/
structure Put (fs : Filters) (form : Form) (gs : Filters) : Prop where
  fields : gs.fields = fs.fields.map (·.filledFrom form)
  shown : ∀ spec ∈ fs.visibleSpecs,
    (form.refill gs).get? spec.name = (form.get? spec.name).or spec.defaultValue
  unshown : ∀ name, (∀ spec ∈ fs.visibleSpecs, spec.name ≠ name) →
    (form.refill gs).get? name = none

theorem Made.edits (h : Made start form) (edits : List Edit) :
    Made start (edits.foldl edit form) := by
  induction edits generalizing form with
  | nil => exact h
  | cons edit rest ih => exact ih (h.edited edit)

theorem Made.normal (hnormal : start.Normal) (hdefaults : NormalDefaults start.specs)
    (h : Made start form) : form.Normal := by
  induction h with
  | blank =>
      intro name v hv
      cases hv
  | edited _ edit ih => exact ih.edit edit
  | refilled _ actions _ =>
      refine normal_refill (Filters.run_normal hnormal actions) ?_ _
      rw [Filters.run_specs]
      exact hdefaults
  | touched _ _ ih => exact ih

theorem filledFrom_refill_effective (hfield : field ∈ fs.fields) (form : Form) :
    (field.filledFrom (form.refill fs)).effective = field.effective := by
  cases hhidden : field.spec.hidden with
  | true => rw [FieldState.filledFrom, hhidden, if_pos rfl]
  | false =>
      -- The default is filled in once by reading, and once more from the stored value.
      rw [FieldState.filledFrom_of_shown hhidden, get?_refill hfield hhidden]
      simp only [FieldState.effective, FieldSpec.effective, Option.or_assoc, Option.or_self]

theorem effectives_of_filledFrom_refill
    (hfields : gs.fields = fs.fields.map (·.filledFrom (form.refill fs))) :
    gs.effectives = fs.effectives := by
  rw [Filters.effectives, hfields, List.map_map]
  exact List.map_congr_left fun field hfield => filledFrom_refill_effective hfield form

theorem specs_of_filledFrom (hfields : gs.fields = fs.fields.map (·.filledFrom form)) :
    gs.specs = fs.specs := by
  rw [Filters.specs, hfields, List.map_map]
  exact List.map_congr_left fun field _ => field.filledFrom_spec form

theorem holds_refill_iff {spec : FieldSpec} (hspec : spec ∈ fs.visibleSpecs) (form : Form) :
    (form.refill fs).holds spec.name = true ↔ (fs.value? spec.name).isSome = true := by
  obtain ⟨field, hfield, rfl, hvisible⟩ := Filters.exists_field_of_visible hspec
  rw [holds, KeyMap.contains_eq, ← get?, get?_refill hfield hvisible,
    Filters.value?_name hfield]

theorem assign_putBack (hopen : fs.isClosed = false) (hnormal : fs.Normal)
    (hdefaults : NormalDefaults fs.specs) (form : Form) (source : Provenance) :
    ∃ gs, fs.assign ((form.refill fs).assignments fs) source = (.ok false, gs) ∧
      PutBack fs form gs := by
  obtain ⟨changed, gs, hassign, hfields⟩ :=
    assign_assignments hopen (normal_refill hnormal hdefaults form) source
  have hsame := effectives_of_filledFrom_refill hfields
  have hanswer := Filters.assign_fst hopen ((form.refill fs).assignments_known fs) source
  rw [hassign] at hanswer
  obtain rfl : changed = false := by simpa [hsame] using hanswer
  refine ⟨gs, hassign, fun key => ?_, ?_, fun spec hspec => holds_refill_iff hspec form⟩
  · exact Filters.value?_eq_of_standings
      (Filters.standings_eq_of_effectives (specs_of_filledFrom hfields) hsame) key
  · have hfeed := Filters.assign_valueFeed fs ((form.refill fs).assignments fs) source
    rwa [hassign] at hfeed

theorem assign_put (hopen : fs.isClosed = false) (h : form.Normal) (source : Provenance) :
    ∃ changed gs, fs.assign (form.assignments fs) source = (.ok changed, gs) ∧
      Put fs form gs := by
  obtain ⟨changed, gs, hassign, hfields⟩ := assign_assignments hopen h source
  have hvisible : gs.visibleSpecs = fs.visibleSpecs := by
    rw [Filters.visibleSpecs, specs_of_filledFrom hfields, Filters.visibleSpecs]
  refine ⟨changed, gs, hassign, hfields, fun spec hspec => ?_, fun name hnone => ?_⟩
  · obtain ⟨field, hfield, rfl, hshown⟩ := Filters.exists_field_of_visible hspec
    have hfilled : field.filledFrom form ∈ gs.fields := by
      rw [hfields]
      exact List.mem_map_of_mem hfield
    rw [FieldState.filledFrom_of_shown hshown] at hfilled
    exact get?_refill hfilled hshown form
  · rw [Option.eq_none_iff_forall_ne_some]
    intro v hv
    obtain ⟨field, hfield, hname, hshown, _⟩ := shown_of_get?_refill hv
    exact hnone field.spec (hvisible ▸ (Filters.mem_visibleSpecs hfield).2 hshown) hname

/-- Filters and form obey the laws of a view, if defaults survive the trimming: what
was read can be put back and changes nothing, and what was put is read again. -/
theorem view_laws {specs : List FieldSpec} (hstart : Filters.ofSpecs specs = .ok start)
    (hdefaults : NormalDefaults specs) {actions : List Filters.Action}
    (hopen : (start.run actions).isClosed = false) (source : Provenance) :
    (∀ form : Form, ∃ gs, (start.run actions).assign
        ((form.refill (start.run actions)).assignments (start.run actions)) source =
          (.ok false, gs) ∧ PutBack (start.run actions) form gs) ∧
    (∀ form : Form, Made start form → ∃ changed gs,
      (start.run actions).assign (form.assignments (start.run actions)) source =
        (.ok changed, gs) ∧ Put (start.run actions) form gs) := by
  have hnormal : start.Normal := Filters.ofSpecs_normal hstart
  have hdeclared : start.specs = specs := Filters.ofSpecs_specs hstart
  rw [← hdeclared] at hdefaults
  refine ⟨fun form => ?_, fun form hmade => ?_⟩
  · exact assign_putBack hopen (Filters.run_normal hnormal actions)
      (by rwa [Filters.run_specs]) form source
  · exact assign_put hopen (hmade.normal hnormal hdefaults) source

/-- A third page of archived records is in effect. -/
def browsed : List Filters.Action :=
  [.assign [(textAlias, some " a "), (pageField, some "3"), (inactiveField, some "true")] .user]

/-- A form over it in which the text is changed, the toggle is cleared, and two
controls are filled that no shown field has. -/
def retyped (fs : Filters) : Form :=
  [Edit.text " b ", .control inactiveField (some " "), .control pageField (some "9"),
    .control "lang" (some "en")].foldl edit (Form.empty.refill fs)

/-- Putting it changes the text, takes the toggle back to its default, and leaves the
page. -/
theorem view_laws_retyped :
    ∃ start changed gs, Filters.ofSpecs standardFields = .ok start ∧
      NormalDefaults standardFields ∧ (start.run browsed).isClosed = false ∧
      Made start (retyped (start.run browsed)) ∧
      (start.run browsed).assign
        ((retyped (start.run browsed)).assignments (start.run browsed)) .user =
          (.ok changed, gs) ∧
      Put (start.run browsed) (retyped (start.run browsed)) gs ∧
      gs.value? textField = some "b" ∧ gs.value? pageField = some "3" ∧
      ((retyped (start.run browsed)).refill gs).get? inactiveField = some "false" := by
  obtain ⟨start, hstart, hcheck⟩ := exists_ok_of_check (Filters.ofSpecs standardFields)
    (fun start => decide ((start.run browsed).isClosed = false ∧
      ((start.run browsed).assign
        ((retyped (start.run browsed)).assignments (start.run browsed)) .user).2.value? textField =
          some "b" ∧
      ((start.run browsed).assign
        ((retyped (start.run browsed)).assignments (start.run browsed)) .user).2.value? pageField =
          some "3" ∧
      ((retyped (start.run browsed)).refill ((start.run browsed).assign
        ((retyped (start.run browsed)).assignments (start.run browsed)) .user).2).get?
          inactiveField = some "false"))
    (by decide +kernel)
  obtain ⟨hopen, htext, hpage, htoggle⟩ := of_decide_eq_true hcheck
  have hdefaults : NormalDefaults standardFields := by decide +kernel
  have hmade : Made start (retyped (start.run browsed)) :=
    Made.edits (.refilled .blank browsed) _
  obtain ⟨changed, gs, hassign, hput⟩ :=
    (view_laws hstart hdefaults hopen .user).2 (retyped (start.run browsed)) hmade
  rw [hassign] at htext hpage htoggle
  exact ⟨start, changed, gs, hstart, hdefaults, hopen, hmade, hassign, hput, htext, hpage,
    htoggle⟩

end Form

end RecordSearch
