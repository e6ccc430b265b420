import RecordSearch.Error
import RecordSearch.Feed
import RecordSearch.FieldSpec
import RecordSearch.KeyMap
import RecordSearch.Parameters

/-!
# The filters of a search

The filters hold the current value of every declared field and the choices that
the backend has sent for it. No key addresses two fields; the type says so, and
declarations that break the rule make no filters.

Values and choices change independently and are announced on two feeds. A value
change is announced only if some field's value in effect is different
afterwards: writing its default into an unset field, say, changes nothing that
anyone can see. The announcement tells where the change came from, which lets
the controller leave alone the address that it has just read.
-/

namespace RecordSearch

/-- Field name and value in effect. -/
abbrev Values := KeyMap String

/-- New values for fields, by name or alias; none unsets a field. -/
abbrev Assignments := List (String × Option String)

/-- Where a value change came from. -/
inductive Provenance
  /-- Read from the address. -/
  | address
  /-- Submitted or edited. -/
  | user
  /-- A page turn. -/
  | pageTurn
deriving DecidableEq, Repr

/-- The announcement of a value change. -/
structure ValueChange where
  values : Values
  source : Provenance
deriving DecidableEq

/-- The announcement of new choices. -/
structure ChoicesChange where
  field : String
  choices : List Choice
deriving DecidableEq, Repr

/-- A declared field and its state. -/
structure FieldState where
  spec : FieldSpec
  /-- The value that was set, if any. -/
  value : Option String
  /-- The choices sent by the backend, once there are any. -/
  fetched : Option (List Choice)
deriving DecidableEq, Repr

namespace FieldState

/-- A field that has no value yet. -/
def unset (spec : FieldSpec) : FieldState :=
  ⟨spec, none, none⟩

def keys (field : FieldState) : List String :=
  field.spec.keys

/-- The value in effect. -/
def effective (field : FieldState) : Option String :=
  field.spec.effective field.value

/-- Whether the value in effect is the default. -/
def atDefault (field : FieldState) : Bool :=
  field.spec.isDefault field.value

/-- Whether a value was set that is not the default. -/
def isMoved (field : FieldState) : Bool :=
  field.value.isSome && !field.atDefault

/-- The choices to show: the backend's, or the declared ones before that. -/
def choices (field : FieldState) : List Choice :=
  field.fetched.getD field.spec.choices

/-- The entry of the field in a query: none if it is unset, or suppressed at
its default. -/
def queryEntry (field : FieldState) : Option (String × String) :=
  match field.effective with
  | none => none
  | some value =>
    if field.spec.suppressDefault && field.atDefault then none else some (field.spec.name, value)

/-- The entry of the field in an address: none at the default. -/
def addressEntry (field : FieldState) : Option (String × String) :=
  if field.atDefault then none else field.effective.map (field.spec.name, ·)

end FieldState

/-- The first key that is in `seen` or stands earlier in the list. -/
def firstRepeat? (seen : List String) : List String → Option String
  | [] => none
  | key :: rest => if key ∈ seen then some key else firstRepeat? (key :: seen) rest

theorem nodup_of_firstRepeat? {seen keys : List String} (h : firstRepeat? seen keys = none) :
    keys.Nodup ∧ ∀ key ∈ keys, key ∉ seen := by
  induction keys generalizing seen with
  | nil => simp
  | cons key rest ih =>
    simp only [firstRepeat?] at h
    split at h
    · cases h
    · next hmem =>
      obtain ⟨hnodup, hfresh⟩ := ih h
      refine ⟨List.nodup_cons.2 ⟨fun hk => hfresh key hk List.mem_cons_self, hnodup⟩, ?_⟩
      intro k hk
      rcases List.mem_cons.1 hk with rfl | hk
      · exact hmem
      · exact fun hs => hfresh k hk (List.mem_cons_of_mem _ hs)

/-- The state of all declared fields, in the order of their declaration. -/
structure Filters where
  fields : List FieldState
  /-- No key addresses two fields. -/
  keys_nodup : (fields.flatMap FieldState.keys).Nodup
  valueFeed : Feed ValueChange
  choicesFeed : Feed ChoicesChange

namespace Filters

/-- All fields unset, or the first key that was declared before. -/
def ofSpecs (specs : List FieldSpec) : Except SearchError Filters :=
  match h : firstRepeat? [] (specs.flatMap FieldSpec.keys) with
  | some key => .error (.duplicateField key)
  | none => .ok {
      fields := specs.map FieldState.unset
      keys_nodup := by
        rw [List.flatMap_map]
        exact (nodup_of_firstRepeat? h).1
      valueFeed := .empty
      choicesFeed := .empty }

/-- The filters with every field's state replaced, by a function that keeps its
declaration. -/
def mapFields (fs : Filters) (f : FieldState → FieldState)
    (h : ∀ field, (f field).spec = field.spec) : Filters :=
  { fs with
    fields := fs.fields.map f
    keys_nodup := by
      rw [List.flatMap_map]
      have heq : (fun field => (f field).keys) = FieldState.keys := by
        funext field
        simp only [FieldState.keys, h]
      rw [heq]
      exact fs.keys_nodup }

/-! ## Reading -/

def specs (fs : Filters) : List FieldSpec :=
  fs.fields.map (·.spec)

/-- The declarations of the fields that the form shows. -/
def visibleSpecs (fs : Filters) : List FieldSpec :=
  fs.specs.filter (!·.hidden)

/-- The state of the field that a key addresses. -/
def field? (fs : Filters) (key : String) : Option FieldState :=
  fs.fields.find? (·.spec.hasKey key)

def spec? (fs : Filters) (key : String) : Option FieldSpec :=
  (fs.field? key).map (·.spec)

def contains (fs : Filters) (key : String) : Bool :=
  fs.fields.any (·.spec.hasKey key)

/-- The value in effect of the field that a key addresses. -/
def value? (fs : Filters) (key : String) : Option String :=
  (fs.field? key).bind (·.effective)

/-- Whether the field that a key addresses was moved off its default. -/
def isMoved (fs : Filters) (key : String) : Bool :=
  match fs.field? key with
  | some field => field.isMoved
  | none => false

/-- The choices of the field that a key addresses. -/
def choices (fs : Filters) (key : String) : List Choice :=
  match fs.field? key with
  | some field => field.choices
  | none => []

/-- The values in effect of all fields, in order of declaration. -/
def effectives (fs : Filters) : List (Option String) :=
  fs.fields.map (·.effective)

/-- The values for a query: those in effect, without suppressed defaults. -/
def values (fs : Filters) : Values :=
  .ofList (fs.fields.filterMap (·.queryEntry))

/-- The parameters for an address: every field off its default, under its name,
in order of declaration. -/
def parameters (fs : Filters) : Parameters :=
  .ofList (fs.fields.filterMap (·.addressEntry))

/-- The changes that make an address show the filters: each name is written
or removed, each alias is removed. -/
def addressPatch (fs : Filters) : Patch :=
  let params := fs.parameters
  fs.fields.flatMap fun field =>
    (field.spec.name, params.get? field.spec.name) ::
      field.spec.aliasKey.toList.map fun key => (key, none)

/-- Whether the filters have been closed. -/
def isClosed (fs : Filters) : Bool :=
  fs.valueFeed.closed

/-! ## Changing values -/

/-- Sets the value of the field that a key addresses. -/
def write (fs : Filters) (key : String) (value : Option String) : Filters :=
  fs.mapFields (fun field => if field.spec.hasKey key then { field with value := value } else field)
    (by intro field; split <;> rfl)

/-- Writes assignments one after another, each normalized. -/
def writeAll (fs : Filters) (changes : Assignments) : Filters :=
  changes.foldl (fun fs change => fs.write change.1 (Text.normalize? change.2)) fs

/-- Announces the values as they are now. -/
def announce (fs : Filters) (source : Provenance) : Filters :=
  { fs with valueFeed := fs.valueFeed.publish ⟨fs.values, source⟩ }

/-- Sets the values of some fields and leaves the others. Fails as a whole if a
key addresses no field. Tells whether some value in effect changed, which is
also when the change is announced. -/
def assign (fs : Filters) (changes : Assignments) (source : Provenance) :
    Except SearchError Bool × Filters :=
  if fs.isClosed then (.error .disposed, fs)
  else match changes.find? fun change => !fs.contains change.1 with
    | some change => (.error (.unknownField change.1), fs)
    | none =>
      let next := fs.writeAll changes
      if next.effectives = fs.effectives then (.ok false, next)
      else (.ok true, next.announce source)

/-- What parameters say about a field: the first value under its name, else the
first under its alias. -/
def parameterFor (params : Parameters) (spec : FieldSpec) : Option String :=
  (params.get? spec.name).or (spec.aliasKey.bind params.get?)

/-- The assignment of every field from parameters. -/
def assignmentsFrom (fs : Filters) (params : Parameters) : Assignments :=
  fs.specs.map fun spec => (spec.name, parameterFor params spec)

/-- Replaces the value of every field by what parameters say about it. -/
def readParameters (fs : Filters) (params : Parameters) (source : Provenance) :
    Except SearchError Bool × Filters :=
  fs.assign (fs.assignmentsFrom params) source

/-! ## Changing choices -/

/-- Stores the choices of the field that a key addresses. -/
def writeChoices (fs : Filters) (key : String) (choices : List Choice) : Filters :=
  fs.mapFields
    (fun field => if field.spec.hasKey key then { field with fetched := some choices } else field)
    (by intro field; split <;> rfl)

/-- Replaces the choices of a field and announces it, unless the backend sent
the same before. -/
def setChoices (fs : Filters) (key : String) (choices : List Choice) :
    Except SearchError Unit × Filters :=
  if fs.isClosed then (.error .disposed, fs)
  else match fs.field? key with
    | none => (.error (.unknownField key), fs)
    | some field =>
      if field.fetched = some choices then (.ok (), fs)
      else
        let next := fs.writeChoices key choices
        (.ok (), { next with
          choicesFeed := next.choicesFeed.publish ⟨field.spec.name, choices⟩ })

/-! ## Feeds -/

/-- Closes both feeds; from now on nothing can be changed. -/
def close (fs : Filters) : Filters :=
  { fs with valueFeed := fs.valueFeed.close, choicesFeed := fs.choicesFeed.close }

/-- Everything that can be done to filters. -/
inductive Action
  | assign (changes : Assignments) (source : Provenance)
  | read (params : Parameters) (source : Provenance)
  | setChoices (key : String) (choices : List Choice)
  | onValues (action : Feed.Action)
  | onChoices (action : Feed.Action)
  | close

/-- What an action answers. -/
inductive Reply
  | changed (outcome : Except SearchError Bool)
  | choicesSet (outcome : Except SearchError Unit)
  | ofValues (reply : Feed.Reply ValueChange)
  | ofChoices (reply : Feed.Reply ChoicesChange)
  | closed

/-- Carries out an action. -/
def perform (fs : Filters) : Action → Reply × Filters
  | .assign changes source =>
    let (outcome, fs) := fs.assign changes source
    (.changed outcome, fs)
  | .read params source =>
    let (outcome, fs) := fs.readParameters params source
    (.changed outcome, fs)
  | .setChoices key choices =>
    let (outcome, fs) := fs.setChoices key choices
    (.choicesSet outcome, fs)
  | .onValues action =>
    let (reply, feed) := fs.valueFeed.perform action
    (.ofValues reply, { fs with valueFeed := feed })
  | .onChoices action =>
    let (reply, feed) := fs.choicesFeed.perform action
    (.ofChoices reply, { fs with choicesFeed := feed })
  | .close => (.closed, fs.close)

/-- The filters after a sequence of actions. -/
def run (fs : Filters) (actions : List Action) : Filters :=
  actions.foldl (fun fs action => (fs.perform action).2) fs

/-- The text of filters in a log or a debugger. -/
def debugText (fs : Filters) : String :=
  let entries := fs.values.toList.map fun entry =>
    Text.quoted entry.1 ++ ": " ++ Text.quoted entry.2
  "FieldSet \x7b values: \x7b" ++ String.intercalate ", " entries ++ "\x7d, closed: " ++
    (if fs.isClosed then "true" else "false") ++ " \x7d"

end Filters

end RecordSearch
