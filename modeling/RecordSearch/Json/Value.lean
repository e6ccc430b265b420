import RecordSearch.KeyMap
import RecordSearch.Text.Number

/-!
# JSON values

A JSON text is kept as the tree that it spells: an object keeps its members in
order and with repetitions, and a number keeps its digits, because what a
number means is decided only when somebody asks for a type. For the same reason
a string that stands for no text is a value; it can only not be read.

Typed reading asks values for what they hold. A record is read from an object
or, field by field, from an array. An object may have members that the record
does not know, but a known one only once; in an array, fields at the end may be
missing. Whether a missing field has a default is the record's business.
-/

namespace RecordSearch.Json

/-- A JSON value. -/
inductive Value
  | null
  | bool (b : Bool)
  /-- A number as it is spelled. -/
  | number (digits : List Char)
  | text (s : String)
  | array (items : List Value)
  | object (members : List (String × Value))
  /-- A string that is no text, because half a surrogate pair stands alone in it,
  or an object with such a key. -/
  | unreadable
deriving Inhabited

namespace Value

/-- The number `n`. -/
def ofNat (n : Nat) : Value :=
  .number (Nat.toDigits 10 n)

/-- A value that may be absent, as null. -/
def ofOption {α : Type} (f : α → Value) : Option α → Value
  | some a => f a
  | none => .null

/-- A string that may stand for no text. -/
def ofOptionText : Option String → Value
  | some s => .text s
  | none => .unreadable

/-- The object with the entries of a map. -/
def ofMap {α : Type} (f : α → Value) (m : KeyMap α) : Value :=
  .object (m.toList.map fun entry => (entry.1, f entry.2))

/-- The object of members of which each key may be no text. -/
def ofMembers (members : List (Option String × Value)) : Value :=
  match members.mapM fun member => member.1.map (·, member.2) with
  | some members => .object members
  | none => .unreadable

/-- An object whose members are sorted by key. -/
def sorted (members : List (String × Value)) : Value :=
  .object (KeyMap.ofList members).toList

/-! ## Typed reading -/

def text? : Value → Option String
  | .text s => some s
  | _ => none

def bool? : Value → Option Bool
  | .bool b => some b
  | _ => none

/-- A number spelled with digits only, and at most `bound`. -/
def natural? (bound : Nat) : Value → Option Nat
  | .number digits => (Text.readDecimal digits).filter (· ≤ bound)
  | _ => none

def uint32? (v : Value) : Option UInt32 :=
  (v.natural? (UInt32.size - 1)).map UInt32.ofNat

def uint64? (v : Value) : Option UInt64 :=
  (v.natural? (UInt64.size - 1)).map UInt64.ofNat

/-- An array of which every item can be read. -/
def list? {α : Type} (item : Value → Option α) : Value → Option (List α)
  | .array items => items.mapM item
  | _ => none

/-- A value that null stands in for when it is absent. -/
def optional? {α : Type} (f : Value → Option α) : Value → Option (Option α)
  | .null => some none
  | v => (f v).map some

/-- An object as a map. Of a key that repeats the last member counts, but all
have to be readable. -/
def map? {α : Type} (f : Value → Option α) : Value → Option (KeyMap α)
  | .object members =>
    (members.mapM fun member => (f member.2).map (member.1, ·)).map KeyMap.ofList
  | _ => none

end Value

/-- The fields of a record that a value has. -/
abbrev Record := List (String × Value)

namespace Record

/-- Reads a value as a record with the given fields. -/
def ofValue? (fields : List String) : Value → Option Record
  | .object members =>
    let known := members.filter fun member => fields.contains member.1
    if (known.map (·.1)).Nodup then some known else none
  | .array items => if items.length ≤ fields.length then some (fields.zip items) else none
  | _ => none

/-- A field that must be there. -/
def required {α : Type} (r : Record) (field : String) (f : Value → Option α) : Option α :=
  (r.lookup field).bind f

/-- A field that has a default. -/
def defaulted {α : Type} (r : Record) (field : String) (d : α) (f : Value → Option α) :
    Option α :=
  match r.lookup field with
  | some v => f v
  | none => some d

/-- A field that may be missing or null. -/
def optional {α : Type} (r : Record) (field : String) (f : Value → Option α) :
    Option (Option α) :=
  r.defaulted field none (Value.optional? f)

end Record

end RecordSearch.Json
