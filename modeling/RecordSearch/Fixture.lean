import RecordSearch.Controller.Basic
import RecordSearch.Json.Reader
import RecordSearch.Schema
import RecordSearch.Typeahead
import RecordSearch.Waiting

/-!
# A backend in a file

A fixture holds credential records, their kinds and facets, and answers
searches from them without a live service. It filters and pages the records,
suggests names, and replays its facets with every page, whatever was asked for.

A query that leaves the archive toggle out means what the toggle's default
means: current records only.
-/

namespace RecordSearch

open RecordSearch.Json

/-- A kind of credential. -/
structure CredentialKind where
  id : UInt64
  description : String
deriving DecidableEq, Repr

namespace CredentialKind

/-- The choice that a kind becomes. -/
def toChoice (kind : CredentialKind) : Choice :=
  ⟨toString kind.id, kind.description, none⟩

end CredentialKind

/-- A credential on record. -/
structure Credential where
  id : UInt64
  name : String
  issuerId : UInt64
  kindId : UInt64
  entityType : String
  /-- Whether the record is archived. -/
  inactive : Bool
deriving DecidableEq, Repr

/-- Whether an identifier passes a filter: every one without a filter, and none
if the filter is not a number. -/
def idPasses (filter : Option String) (id : UInt64) : Bool :=
  match filter with
  | none => true
  | some raw => Text.readUInt64 (Text.trim raw) == some id

namespace Credential

/-- Whether the name contains the text asked for. -/
def matchesText (record : Credential) (q : Query) : Bool :=
  match q.get? textField with
  | none => true
  | some text => Text.containsIgnoringCase record.name text

/-- Whether the record is of the category asked for. -/
def matchesCategory (record : Credential) (q : Query) : Bool :=
  match q.get? categoryField with
  | none => true
  | some category => category == record.entityType

/-- Whether the archive toggle lets the record through; left out, it lets current
records through. -/
def matchesInactive (record : Credential) (q : Query) : Bool :=
  (((q.get? inactiveField).bind ArchiveToggle.parse).getD .current).admits record.inactive

/-- Whether a record answers a query. -/
def answers (record : Credential) (q : Query) : Bool :=
  record.matchesText q && idPasses (q.get? issuerField) record.issuerId &&
    idPasses (q.get? credentialTypeField) record.kindId &&
    record.matchesCategory q && record.matchesInactive q

end Credential

/-- The content of a fixture. -/
structure Fixture where
  credentialKinds : List CredentialKind
  records : List Credential
  facets : Facets
deriving DecidableEq

namespace Fixture

def empty : Fixture := ⟨[], [], .empty⟩

instance : Inhabited Fixture := ⟨empty⟩

/-- The largest number of suggestions for a term. -/
def suggestionLimit : Nat := 10

/-- The records that answer a query, in the order of the file. -/
def matching (data : Fixture) (q : Query) : List Credential :=
  data.records.filter (·.answers q)

/-- The page of matching records that a query asks for. -/
def search (data : Fixture) (q : Query) : ResultPage Credential where
  data := ((data.matching q).drop q.offset.toNat).take q.pageSize.toNat
  facets := data.facets
  total := UInt64.ofNat (data.matching q).length
  page := q.page

/-- Adds names that contain a term to those found, each once, up to the
limit. -/
def collectNames (term : String) (found : List String) : List Credential → List String
  | [] => found
  | record :: rest =>
    if suggestionLimit ≤ found.length then found
    else if Text.containsIgnoringCase record.name term && !found.contains record.name then
      collectNames term (found ++ [record.name]) rest
    else collectNames term found rest

/-- The first names of records that contain a term. -/
def suggest (data : Fixture) (term : String) : List String :=
  collectNames term [] data.records

/-- The page of all kinds. -/
def kindPage (data : Fixture) : ResultPage CredentialKind where
  data := data.credentialKinds
  facets := .empty
  total := UInt64.ofNat data.credentialKinds.length
  page := 1

/-- The page of the choices that the kinds make. -/
def kindChoices (data : Fixture) : ResultPage Choice where
  data := data.kindPage.data.map CredentialKind.toChoice
  facets := data.kindPage.facets
  total := data.kindPage.total
  page := data.kindPage.page

/-! ## As a source of answers -/

/-- Serves each search by a worker of its own. -/
def searchSource (data : Fixture) (services : Nat → Service) :
    Nat → Query → Treatment (PageAnswer Credential) :=
  fun number q => (services number).treatment (.ok (data.search q))

/-- Answers every preload with the kinds, at once. -/
def kindSource (data : Fixture) : Nat → Query → Treatment (PageAnswer Choice) :=
  fun _ _ => .answer (.ok data.kindChoices)

/-- Serves each term by a worker of its own. -/
def suggestionSource (data : Fixture) (services : Nat → Service) :
    Nat → String → Treatment ListAnswer :=
  fun number term => (services number).treatment (.ok (data.suggest term))

/-- A controller over the fixture, with the standard fields or others. -/
def controller (data : Fixture) (services : Nat → Service) (wiring : Wiring)
    (specs : List FieldSpec) (bar : AddressBar) :
    Except (Refusal Credential) (Controller Credential) :=
  Controller.create wiring specs (.ofSource (data.searchSource services))
    (.ofSource data.kindSource) bar

end Fixture

/-! ## JSON forms -/

namespace CredentialKind

/-- Reads a kind. -/
def ofJson? (v : Value) : Option CredentialKind := do
  let r ← Record.ofValue? ["id", "description"] v
  let id ← r.required "id" Value.uint64?
  let description ← r.required "description" Value.text?
  return { id, description }

/-- The JSON form of a kind. -/
def toJson (kind : CredentialKind) : Value :=
  .object [("id", .ofNat kind.id.toNat), ("description", .text kind.description)]

end CredentialKind

namespace Credential

/-- Reads a record; one that does not say so is not archived. -/
def ofJson? (v : Value) : Option Credential := do
  let r ← Record.ofValue?
    ["id", "name", "issuer_id", "credential_type_id", "entity_type", "inactive"] v
  let id ← r.required "id" Value.uint64?
  let name ← r.required "name" Value.text?
  let issuerId ← r.required "issuer_id" Value.uint64?
  let kindId ← r.required "credential_type_id" Value.uint64?
  let entityType ← r.required "entity_type" Value.text?
  let inactive ← r.defaulted "inactive" false Value.bool?
  return { id, name, issuerId, kindId, entityType, inactive }

/-- The members of the JSON form of a record. -/
def members (record : Credential) : List (String × Value) :=
  [("id", .ofNat record.id.toNat),
   ("name", .text record.name),
   ("issuer_id", .ofNat record.issuerId.toNat),
   ("credential_type_id", .ofNat record.kindId.toNat),
   ("entity_type", .text record.entityType),
   ("inactive", .bool record.inactive)]

/-- The JSON form of a record. -/
def toJson (record : Credential) : Value :=
  .object record.members

end Credential

namespace Fixture

/-- Reads a fixture; all its parts may be missing. -/
def ofJson? (v : Value) : Option Fixture := do
  let r ← Record.ofValue? ["credential_types", "records", "facets"] v
  let credentialKinds ← r.defaulted "credential_types" [] (Value.list? CredentialKind.ofJson?)
  let records ← r.defaulted "records" [] (Value.list? Credential.ofJson?)
  let facets ← r.defaulted "facets" .empty Facets.ofJson?
  return { credentialKinds, records, facets }

/-- The JSON form of a fixture. -/
def toJson (data : Fixture) : Value :=
  .object [
    ("credential_types", .array (data.credentialKinds.map CredentialKind.toJson)),
    ("records", .array (data.records.map Credential.toJson)),
    ("facets", data.facets.toJson)]

/-- Reads the text of a fixture. -/
def parse? (text : String) : Option Fixture :=
  (Value.parse? text).bind ofJson?

end Fixture

/-- A fixture in service, with the number of requests that it has taken on. -/
structure FixtureService where
  data : Fixture
  requests : Nat

namespace FixtureService

/-- A backend that has not been asked yet. -/
def serving (data : Fixture) : FixtureService :=
  ⟨data, 0⟩

/-- Takes on a search, with what its worker will answer. -/
def load (b : FixtureService) (q : Query) : PageAnswer Credential × FixtureService :=
  (.ok (b.data.search q), { b with requests := b.requests + 1 })

/-- Takes on a term, with what its worker will answer. -/
def suggest (b : FixtureService) (term : String) : ListAnswer × FixtureService :=
  (.ok (b.data.suggest term), { b with requests := b.requests + 1 })

end FixtureService

end RecordSearch
