import RecordSearch.Filters

/-!
# The search form

The form holds what is being edited. Nothing of it reaches the address or the
backend before it is submitted; submitting copies the visible controls into the
filters, and reading an address copies the filters into the controls.

A control that is left blank holds nothing. A rejected submission marks every
visible control as touched, so that the form shows what is missing.
-/

namespace RecordSearch

/-- The controls with their texts, and the names of the touched ones. -/
structure Form where
  controls : KeyMap String
  touched : List String
deriving DecidableEq

namespace Form

/-- The blank form. -/
def empty : Form := ⟨.empty, []⟩

instance : Inhabited Form := ⟨empty⟩

def get? (form : Form) (field : String) : Option String :=
  form.controls.get? field

/-- Edits a control. A blank text clears it. -/
def set (form : Form) (field : String) (value : Option String) : Form :=
  match Text.normalize? value with
  | some text => { form with controls := form.controls.insert field text }
  | none => { form with controls := form.controls.erase field }

/-- The content of the free-text control. -/
def text (form : Form) : String :=
  (form.get? textField).getD ""

def setText (form : Form) (text : String) : Form :=
  form.set textField (some text)

/-- The state of the archive toggle. -/
def inactive (form : Form) : ArchiveToggle :=
  ((form.get? inactiveField).bind ArchiveToggle.parse).getD .current

def setInactive (form : Form) (state : ArchiveToggle) : Form :=
  form.set inactiveField (some state.keyword)

/-- Whether a control holds a text. -/
def holds (form : Form) (field : String) : Bool :=
  form.controls.contains field

def isTouched (form : Form) (field : String) : Bool :=
  form.touched.contains field

/-- Refills the controls with the values in effect of the visible fields. -/
def refill (form : Form) (filters : Filters) : Form :=
  { form with
    controls := .ofList (filters.visibleSpecs.filterMap fun spec =>
      (filters.value? spec.name).map (spec.name, ·)) }

/-- The values of the visible controls; an empty control unsets its field. -/
def assignments (form : Form) (filters : Filters) : Assignments :=
  filters.visibleSpecs.map fun spec => (spec.name, form.get? spec.name)

/-- Marks every visible control. -/
def touchAll (form : Form) (filters : Filters) : Form :=
  { form with touched := filters.visibleSpecs.map (·.name) }

/-- Clears all marks. -/
def untouch (form : Form) : Form :=
  { form with touched := [] }

/-- What the person in front of the form can do to it. -/
inductive Edit
  | control (field : String) (value : Option String)
  | text (text : String)
  | inactive (state : ArchiveToggle)
  | untouch

/-- The form after an edit. -/
def edit (form : Form) : Edit → Form
  | .control field value => form.set field value
  | .text text => form.setText text
  | .inactive state => form.setInactive state
  | .untouch => form.untouch

end Form

end RecordSearch
