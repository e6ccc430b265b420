import RecordSearch.Filters

/-!
# Queries and result pages

A query is a snapshot of the field values together with a page size; the page
asked for is one of the values. The backend answers with one page of records,
the number of all matching records, and for some fields how the matching
records are distributed over the field's values.

Positions among all matching records are 64-bit numbers, page numbers and page
sizes 32-bit ones, so that no product of the two leaves its type.
-/

namespace RecordSearch

/-- What is asked of the backend. -/
structure Query where
  params : Values
  pageSize : UInt32
deriving DecidableEq

namespace Query

def get? (q : Query) (key : String) : Option String :=
  q.params.get? key

/-- The page asked for: the first one unless the query names a later one. -/
def page (q : Query) : UInt32 :=
  (((q.get? pageField).bind Text.readUInt32).filter (1 ≤ ·)).getD 1

/-- The number of records before the page. -/
def offset (q : Query) : UInt64 :=
  (q.page.toUInt64 - 1) * q.pageSize.toUInt64

end Query

/-- How many records have a value. -/
structure ValueCount where
  value : String
  count : UInt64
deriving DecidableEq, Repr

/-- By field, the distribution over its values as the backend ranks them. -/
abbrev Facets := KeyMap (List ValueCount)

/-- A page of results. -/
structure ResultPage (α : Type) where
  data : List α
  facets : Facets
  /-- The number of all matching records. -/
  total : UInt64
  page : UInt32

/-- The place of a page among all matching records, counted from one. -/
structure Extent where
  first : UInt64
  last : UInt64
  total : UInt64
deriving DecidableEq, Repr

namespace Extent

def display (r : Extent) : String :=
  toString r.first ++ "-" ++ toString r.last ++ " of " ++ toString r.total

end Extent

/-- The page after this one, the last page number at the most. -/
def followingPage (page : UInt32) : UInt32 :=
  if page = 4294967295 then page else page + 1

/-- The page before this one, the first page at the least. -/
def precedingPage (page : UInt32) : UInt32 :=
  if page ≤ 1 then 1 else page - 1

namespace ResultPage

variable {α : Type}

/-- A page without records. -/
def empty (page : UInt32) : ResultPage α :=
  ⟨[], .empty, 0, page⟩

def isEmpty (r : ResultPage α) : Bool :=
  r.data.isEmpty

/-- The place of the page, if it has records. The backend's total bounds it
unless the page begins beyond that. -/
def range (r : ResultPage α) (pageSize : UInt32) : Option Extent :=
  if r.data.isEmpty then none
  else
    let before := (max r.page 1 - 1).toUInt64 * pageSize.toUInt64
    let first := before + 1
    let last := min (before + UInt64.ofNat r.data.length) (max r.total first)
    some ⟨first, last, r.total⟩

/-- Whether matching records remain after the page. -/
def hasNext (r : ResultPage α) (pageSize : UInt32) : Bool :=
  r.page.toUInt64 * pageSize.toUInt64 < r.total

def hasPrevious (r : ResultPage α) : Bool :=
  1 < r.page

/-- The number of the next page, if records remain for it. -/
def nextPage? (r : ResultPage α) (pageSize : UInt32) : Option UInt32 :=
  if r.hasNext pageSize then some (followingPage r.page) else none

/-- The number of the page before, if there is one. -/
def previousPage? (r : ResultPage α) : Option UInt32 :=
  if r.hasPrevious then some (r.page - 1) else none

end ResultPage

/-! ## Choices from facets -/

/-- The choice that a counted value becomes. -/
def ValueCount.toChoice (facet : ValueCount) : Choice :=
  ⟨facet.value, facet.value ++ " (" ++ toString facet.count ++ ")", some facet.count⟩

/-- The choices that facets offer, in the backend's order. -/
def Facets.toChoices (facets : Facets) : KeyMap (List Choice) :=
  facets.mapValues (·.map ValueCount.toChoice)

end RecordSearch
