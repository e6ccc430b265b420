import RecordSearch.Json.Value
import RecordSearch.ResultPage
import RecordSearch.Settings

/-!
# The JSON forms of the search types

How declarations, parameters, queries, pages and settings are written as JSON
and read back. Writing leaves no field out, except the count of a choice that
has none. Reading supplies the defaults of fields that are missing.
-/

namespace RecordSearch

open RecordSearch.Json

namespace Choice

/-- Reads a choice. -/
def ofJson? (v : Value) : Option Choice := do
  let r ← Record.ofValue? ["value", "label", "count"] v
  let value ← r.required "value" Value.text?
  let label ← r.required "label" Value.text?
  let count ← r.optional "count" Value.uint64?
  return ⟨value, label, count⟩

/-- The JSON form of a choice. -/
def toJson (choice : Choice) : Value :=
  .object ([("value", .text choice.value), ("label", .text choice.label)] ++
    choice.count.toList.map fun count => ("count", .ofNat count.toNat))

end Choice

namespace FieldSpec

/-- Reads a declaration. -/
def ofJson? (v : Value) : Option FieldSpec := do
  let r ← Record.ofValue?
    ["name", "alias", "label", "hidden", "default_value", "options", "suppress_when_default"] v
  let name ← r.required "name" Value.text?
  let aliasKey ← r.optional "alias" Value.text?
  let label ← r.optional "label" Value.text?
  let hidden ← r.defaulted "hidden" false Value.bool?
  let defaultValue ← r.optional "default_value" Value.text?
  let choices ← r.defaulted "options" [] (Value.list? Choice.ofJson?)
  let suppressDefault ← r.defaulted "suppress_when_default" true Value.bool?
  return { name, aliasKey, label, hidden, defaultValue, choices, suppressDefault }

/-- The JSON form of a declaration. -/
def toJson (spec : FieldSpec) : Value :=
  .object [
    ("name", .text spec.name),
    ("alias", .ofOption .text spec.aliasKey),
    ("label", .ofOption .text spec.label),
    ("hidden", .bool spec.hidden),
    ("default_value", .ofOption .text spec.defaultValue),
    ("options", .array (spec.choices.map Choice.toJson)),
    ("suppress_when_default", .bool spec.suppressDefault)]

end FieldSpec

namespace ArchiveToggle

/-- Reads a state of the toggle, spelled exactly. -/
def ofJson? (v : Value) : Option ArchiveToggle :=
  v.text?.bind ofKeyword

/-- The JSON form of a state of the toggle. -/
def toJson (state : ArchiveToggle) : Value :=
  .text state.keyword

end ArchiveToggle

namespace Parameters

/-- Reads a pair: an array of two texts. -/
def pairOfJson? : Value → Option (String × String)
  | .array [.text key, .text value] => some (key, value)
  | _ => none

/-- Reads parameters. -/
def ofJson? (v : Value) : Option Parameters := do
  let r ← Record.ofValue? ["pairs"] v
  let pairs ← r.required "pairs" (Value.list? pairOfJson?)
  return ⟨pairs⟩

/-- The JSON form of parameters. -/
def toJson (p : Parameters) : Value :=
  .object [("pairs", .array (p.pairs.map fun pair => .array [.text pair.1, .text pair.2]))]

end Parameters

namespace Values

/-- The JSON form of field values. -/
def toJson (values : Values) : Value :=
  .ofMap .text values

end Values

namespace Query

/-- Reads a query. -/
def ofJson? (v : Value) : Option Query := do
  let r ← Record.ofValue? ["params", "page_size"] v
  let params ← r.required "params" (Value.map? Value.text?)
  let pageSize ← r.required "page_size" Value.uint32?
  return ⟨params, pageSize⟩

/-- The JSON form of a query. -/
def toJson (q : Query) : Value :=
  .object [("params", Values.toJson q.params), ("page_size", .ofNat q.pageSize.toNat)]

end Query

namespace ValueCount

/-- Reads a count. -/
def ofJson? (v : Value) : Option ValueCount := do
  let r ← Record.ofValue? ["value", "count"] v
  let value ← r.required "value" Value.text?
  let count ← r.required "count" Value.uint64?
  return ⟨value, count⟩

/-- The JSON form of a count. -/
def toJson (facet : ValueCount) : Value :=
  .object [("value", .text facet.value), ("count", .ofNat facet.count.toNat)]

end ValueCount

namespace Facets

/-- Reads facets; of a field given twice the last counts. -/
def ofJson? : Value → Option Facets :=
  Value.map? (Value.list? ValueCount.ofJson?)

/-- The JSON form of facets. -/
def toJson (facets : Facets) : Value :=
  .ofMap (fun counts => .array (counts.map ValueCount.toJson)) facets

end Facets

namespace ResultPage

variable {α : Type}

/-- Reads a page, given how to read an item. -/
def ofJson? (item : Value → Option α) (v : Value) : Option (ResultPage α) := do
  let r ← Record.ofValue? ["data", "facets", "total", "page"] v
  let data ← r.required "data" (Value.list? item)
  let facets ← r.defaulted "facets" .empty Facets.ofJson?
  let total ← r.required "total" Value.uint64?
  let page ← r.required "page" Value.uint32?
  return { data, facets, total, page }

/-- The JSON form of a page, given that of an item. -/
def toJson (item : α → Value) (r : ResultPage α) : Value :=
  .object [
    ("data", .array (r.data.map item)),
    ("facets", r.facets.toJson),
    ("total", .ofNat r.total.toNat),
    ("page", .ofNat r.page.toNat)]

end ResultPage

namespace Settings

/-- Reads settings; everything has a default. -/
def ofJson? (v : Value) : Option Settings := do
  let r ← Record.ofValue?
    ["page_size", "typeahead_debounce_ms", "suggestion_cache_size", "log_level"] v
  let pageSize ← r.defaulted "page_size" default.pageSize Value.uint32?
  let debounce ← r.defaulted "typeahead_debounce_ms" default.debounce Value.uint64?
  let cacheSize ← r.defaulted "suggestion_cache_size" default.cacheSize Value.uint64?
  let logLevel ← r.defaulted "log_level" default.logLevel Value.text?
  return { pageSize, debounce, cacheSize, logLevel }

/-- The JSON form of settings. -/
def toJson (settings : Settings) : Value :=
  .object [
    ("page_size", .ofNat settings.pageSize.toNat),
    ("typeahead_debounce_ms", .ofNat settings.debounce.toNat),
    ("suggestion_cache_size", .ofNat settings.cacheSize.toNat),
    ("log_level", .text settings.logLevel)]

end Settings

end RecordSearch
