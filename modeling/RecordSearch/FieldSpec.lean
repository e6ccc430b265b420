import RecordSearch.Text.Blank
import RecordSearch.Text.Casing

/-!
# Filter fields

A field of the search form is declared by its key in the address, the text
that stands for it when it is unset, and the choices that it offers before the
backend has sent any. It may be addressed by a second key, its alias.
-/

namespace RecordSearch

/-- A choice that a field offers. -/
structure Choice where
  value : String
  label : String
  /-- The number of matching records, when the backend counted them. -/
  count : Option UInt64
deriving DecidableEq, Repr, Inhabited

/-- The declaration of one filter field. -/
structure FieldSpec where
  /-- The key under which the field is written. -/
  name : String
  /-- A second key under which it is read. -/
  aliasKey : Option String
  /-- The display key. -/
  label : Option String
  /-- Kept in the address, but not shown in the form. -/
  hidden : Bool
  /-- What an unset field stands for. -/
  defaultValue : Option String
  /-- The choices known beforehand. -/
  choices : List Choice
  /-- Left out of queries while at its default. -/
  suppressDefault : Bool
deriving DecidableEq, Repr, Inhabited

namespace FieldSpec

/-- A visible field with a name and nothing else. -/
def named (name : String) : FieldSpec :=
  ⟨name, none, none, false, none, [], true⟩

/-- The keys that address the field, its name first. -/
def keys (spec : FieldSpec) : List String :=
  spec.name :: spec.aliasKey.toList

/-- Whether `key` addresses the field. -/
def hasKey (spec : FieldSpec) (key : String) : Bool :=
  spec.name == key || spec.aliasKey == some key

/-- The value in effect: the given one, else the default. -/
def effective (spec : FieldSpec) (value : Option String) : Option String :=
  value.or spec.defaultValue

/-- Whether a value has the same effect as none. -/
def isDefault (spec : FieldSpec) (value : Option String) : Bool :=
  spec.effective value == spec.defaultValue

end FieldSpec

/-- Which records the archive toggle lets through. -/
inductive ArchiveToggle
  /-- Current records only. -/
  | current
  /-- Archived records only. -/
  | archived
  /-- Both. -/
  | both
deriving DecidableEq, Repr

namespace ArchiveToggle

instance : Inhabited ArchiveToggle := ⟨.current⟩

/-- The keyword of a state of the toggle. -/
def keyword : ArchiveToggle → String
  | .current => "false"
  | .archived => "true"
  | .both => "any"

/-- The state of exactly this keyword. -/
def ofKeyword : String → Option ArchiveToggle
  | "false" => some .current
  | "true" => some .archived
  | "any" => some .both
  | _ => none

/-- Reads a keyword, whatever its case and the blanks around it. -/
def parse (raw : String) : Option ArchiveToggle :=
  ofKeyword (Text.asciiLower (Text.trim raw))

/-- Whether a record passes. -/
def admits : ArchiveToggle → (inactive : Bool) → Bool
  | .current, inactive => !inactive
  | .archived, inactive => inactive
  | .both, _ => true

end ArchiveToggle

/-! ## The fields of the record search -/

def textField : String := "q"
def textAlias : String := "query"
def pageField : String := "page"
def issuerField : String := "issuer_id"
def credentialTypeField : String := "topic_credential_type_id"
def categoryField : String := "category:entity_type"
def inactiveField : String := "inactive"

/-- The fields behind the address of the record search. -/
def standardFields : List FieldSpec :=
  [{ FieldSpec.named textField with aliasKey := some textAlias, label := some "search.query" },
   { FieldSpec.named pageField with hidden := true, defaultValue := some "1" },
   { FieldSpec.named issuerField with label := some "cred.issuer" },
   { FieldSpec.named credentialTypeField with label := some "cred.cred-type" },
   { FieldSpec.named categoryField with label := some "attribute.entity_type" },
   { FieldSpec.named inactiveField with
     label := some "cred.inactive"
     defaultValue := some ArchiveToggle.current.keyword
     choices :=
       [⟨ArchiveToggle.current.keyword, "No", none⟩,
        ⟨ArchiveToggle.archived.keyword, "Yes", none⟩,
        ⟨ArchiveToggle.both.keyword, "Any", none⟩] }]

end RecordSearch
