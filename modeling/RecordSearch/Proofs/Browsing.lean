import Mathlib.Algebra.Group.Nat.Defs
import RecordSearch.Proofs.Fixture
import RecordSearch.Proofs.KeyMap
import RecordSearch.Proofs.Paging

/-!
# Going through all pages

Four formulas have to fit for a reader who goes from page to page to see every
record once: which records a page holds, whether there is a page behind it, what
its number is, and where it says to be. Each of them multiplies a page number by
the page size, and they count from zero, from one, and to the end of the page.

Pages have 32-bit numbers, so there is a last one. What is asked of the records
is only that they do not go beyond it. Then no product leaves its type, and the
number of the next page is never cut off.
-/

namespace RecordSearch

/-- The place of a page with records, in numbers that are not cut off anywhere. -/
theorem ResultPage.range_eq {α : Type} {page : ResultPage α} (pageSize : UInt32)
    (hne : page.data ≠ []) (hlength : page.data.length < 2 ^ 32) :
    ∃ extent, page.range pageSize = some extent ∧ extent.total = page.total ∧
      extent.first.toNat = (max page.page.toNat 1 - 1) * pageSize.toNat + 1 ∧
      extent.last.toNat =
        min ((max page.page.toNat 1 - 1) * pageSize.toNat + page.data.length)
          (max page.total.toNat extent.first.toNat) := by
  have hsome : page.data.isEmpty = false := by simpa using hne
  have hbefore := toNat_before page.page pageSize
  have hroom := before_le page.page pageSize
  have hfirst : ((max page.page 1 - 1).toUInt64 * pageSize.toUInt64 + 1).toNat =
      (max page.page.toNat 1 - 1) * pageSize.toNat + 1 := by
    rw [UInt64.toNat_add, hbefore, UInt64.toNat_one, Nat.mod_eq_of_lt (by omega)]
  have hlast : ((max page.page 1 - 1).toUInt64 * pageSize.toUInt64 +
      UInt64.ofNat page.data.length).toNat =
        (max page.page.toNat 1 - 1) * pageSize.toNat + page.data.length := by
    have hcount : page.data.length % 2 ^ 64 = page.data.length := Nat.mod_eq_of_lt (by omega)
    rw [UInt64.toNat_add, hbefore, UInt64.toNat_ofNat', hcount, Nat.mod_eq_of_lt (by omega)]
  refine ⟨_, by rw [range, hsome, if_neg Bool.false_ne_true], rfl, hfirst, ?_⟩
  rw [UInt64.toNat_min, UInt64.toNat_max, hlast]

/-- The same query for another page. -/
def Query.turnedTo (q : Query) (page : UInt32) : Query :=
  { q with params := q.params.insert pageField (toString page) }

namespace Query

theorem get?_turnedTo_of_ne (q : Query) (page : UInt32) {key : String} (h : key ≠ pageField) :
    (q.turnedTo page).get? key = q.get? key := by
  rw [get?, turnedTo, KeyMap.get?_insert, if_neg h, get?]

theorem page_turnedTo (q : Query) {page : UInt32} (h : 1 ≤ page) :
    (q.turnedTo page).page = page := by
  rw [page_eq, get?, turnedTo, KeyMap.get?_insert, if_pos rfl, pageNumber_toString h]

theorem sameSearch_turnedTo {q : Query} {page : UInt32} (h : q.page = page) :
    (q.turnedTo page).SameSearch q where
  text := q.get?_turnedTo_of_ne page (by decide)
  issuer := q.get?_turnedTo_of_ne page (by decide)
  kind := q.get?_turnedTo_of_ne page (by decide)
  category := q.get?_turnedTo_of_ne page (by decide)
  toggle := by rw [toggle, q.get?_turnedTo_of_ne page (by decide), toggle]
  page := by rw [page_turnedTo q (h ▸ q.one_le_page), h]
  pageSize := rfl

end Query

/-- What is seen by who starts at a page and goes on to the next page until there
is none. -/
inductive Fixture.Browses (data : Fixture) (q : Query) :
    UInt32 → List (ResultPage Credential) → Prop
  | last {i : UInt32} (h : (data.search (q.turnedTo i)).nextPage? q.pageSize = none) :
      Browses data q i [data.search (q.turnedTo i)]
  | next {i j : UInt32} {pages : List (ResultPage Credential)}
      (h : (data.search (q.turnedTo i)).nextPage? q.pageSize = some j)
      (rest : Browses data q j pages) :
      Browses data q i (data.search (q.turnedTo i) :: pages)

/-- A page that knows its place among the records that match. -/
structure Fixture.InPlace (data : Fixture) (q : Query) (i : UInt32)
    (page : ResultPage Credential) : Prop where
  number : page.page = i
  total : page.total.toNat = (data.matching q).length
  next : ∀ j, page.nextPage? q.pageSize = some j ↔
    j.toNat = i.toNat + 1 ∧ (data.search (q.turnedTo j)).data ≠ []
  range : page.data ≠ [] → ∃ extent, page.range q.pageSize = some extent ∧
    extent.total = page.total ∧
    extent.first.toNat = q.pageSize.toNat * (i.toNat - 1) + 1 ∧
    extent.last.toNat = extent.first.toNat + page.data.length - 1 ∧
    page.data = ((data.matching q).take extent.last.toNat).drop (extent.first.toNat - 1)

namespace Fixture

variable {data : Fixture} {q : Query} {i : UInt32}

theorem matching_turnedTo (data : Fixture) (q : Query) (page : UInt32) :
    data.matching (q.turnedTo page) = data.matching q := by
  refine List.filter_congr fun record _ => ?_
  have hget {key : String} (h : key ≠ pageField) : (q.turnedTo page).get? key = q.get? key :=
    q.get?_turnedTo_of_ne page h
  simp only [Credential.answers, Credential.matchesText, Credential.matchesCategory,
    Credential.matchesInactive]
  rw [hget (by decide), hget (by decide), hget (by decide), hget (by decide), hget (by decide)]

/-- The records of a page are those behind the pages before it. -/
theorem search_turnedTo_data (data : Fixture) (q : Query) (hi : 1 ≤ i) :
    (data.search (q.turnedTo i)).data =
      ((data.matching q).drop ((i.toNat - 1) * q.pageSize.toNat)).take q.pageSize.toNat := by
  rw [search, matching_turnedTo, Query.offset_toNat, Query.page_turnedTo q hi]
  rfl

/-- The places through the end of a page. -/
theorem throughPage_eq (q : Query) (hi : 1 ≤ i) :
    (i.toNat - 1) * q.pageSize.toNat + q.pageSize.toNat = i.toNat * q.pageSize.toNat := by
  have hone : 1 ≤ i.toNat := UInt32.le_iff_toNat_le.1 hi
  rw [← Nat.succ_mul, Nat.succ_eq_add_one, Nat.sub_add_cancel hone]

theorem search_turnedTo_page (data : Fixture) (q : Query) (hi : 1 ≤ i) :
    (data.search (q.turnedTo i)).page = i :=
  Query.page_turnedTo q hi

theorem search_turnedTo_ne_nil_iff (hsize : 1 ≤ q.pageSize) (hi : 1 ≤ i) :
    (data.search (q.turnedTo i)).data ≠ [] ↔
      (i.toNat - 1) * q.pageSize.toNat < (data.matching q).length := by
  have hpos : 1 ≤ q.pageSize.toNat := UInt32.le_iff_toNat_le.1 hsize
  rw [search_turnedTo_data data q hi, Ne, List.take_eq_nil_iff, List.drop_eq_nil_iff]
  omega

section

variable (hbound : (data.matching q).length ≤ q.pageSize.toNat * (2 ^ 32 - 1))

include hbound

theorem search_turnedTo_total (i : UInt32) :
    (data.search (q.turnedTo i)).total.toNat = (data.matching q).length := by
  have hsize := q.pageSize.toNat_lt
  have hlt : (data.matching q).length < 2 ^ 64 := by omega
  rw [search, matching_turnedTo, UInt64.toNat_ofNat', Nat.mod_eq_of_lt hlt]

theorem hasNext_turnedTo_iff (hi : 1 ≤ i) :
    (data.search (q.turnedTo i)).hasNext q.pageSize = true ↔
      i.toNat * q.pageSize.toNat < (data.matching q).length := by
  rw [ResultPage.hasNext, decide_eq_true_iff, UInt64.lt_iff_toNat_lt,
    search_turnedTo_total hbound, search_turnedTo_page data q hi, toNat_toUInt64_mul]

theorem nextPage?_turnedTo_iff (hsize : 1 ≤ q.pageSize) (hi : 1 ≤ i) (j : UInt32) :
    (data.search (q.turnedTo i)).nextPage? q.pageSize = some j ↔
      j.toNat = i.toNat + 1 ∧ (data.search (q.turnedTo j)).data ≠ [] := by
  have hnext := hasNext_turnedTo_iff hbound hi
  -- A page with another behind it is not the last one that has a number.
  have hlast : i.toNat * q.pageSize.toNat < (data.matching q).length → i.toNat < 2 ^ 32 - 1 := by
    intro hlt
    by_contra hge
    have hle : q.pageSize.toNat * (2 ^ 32 - 1) ≤ i.toNat * q.pageSize.toNat := by
      rw [Nat.mul_comm]
      exact Nat.mul_le_mul_right _ (by omega)
    omega
  have hmax := followingPage_toNat i
  have hbehind (hj : j.toNat = i.toNat + 1) : (data.search (q.turnedTo j)).data ≠ [] ↔
      i.toNat * q.pageSize.toNat < (data.matching q).length := by
    have hone : 1 ≤ j := UInt32.le_iff_toNat_le.2 (by rw [UInt32.toNat_one]; omega)
    rw [search_turnedTo_ne_nil_iff hsize hone, hj, Nat.add_sub_cancel]
  rw [ResultPage.nextPage?, search_turnedTo_page data q hi]
  constructor
  · intro h
    split at h
    · next hmore =>
        obtain rfl := Option.some.inj h
        have hlt := hnext.1 hmore
        have hj : (followingPage i).toNat = i.toNat + 1 := by
          have := hlast hlt
          omega
        exact ⟨hj, (hbehind hj).2 hlt⟩
    · cases h
  · rintro ⟨hj, hne⟩
    have hlt := (hbehind hj).1 hne
    have hsame : followingPage i = j := by
      have := hlast hlt
      exact UInt32.toNat_inj.1 (by omega)
    rw [if_pos (hnext.2 hlt), hsame]

theorem range_turnedTo (hsize : 1 ≤ q.pageSize) (hi : 1 ≤ i)
    (hne : (data.search (q.turnedTo i)).data ≠ []) :
    ∃ extent, (data.search (q.turnedTo i)).range q.pageSize = some extent ∧
      extent.total = (data.search (q.turnedTo i)).total ∧
      extent.first.toNat = q.pageSize.toNat * (i.toNat - 1) + 1 ∧
      extent.last.toNat =
        extent.first.toNat + (data.search (q.turnedTo i)).data.length - 1 ∧
      (data.search (q.turnedTo i)).data =
        ((data.matching q).take extent.last.toNat).drop (extent.first.toNat - 1) := by
  have hbegins := (search_turnedTo_ne_nil_iff hsize hi).1 hne
  have hone : 1 ≤ i.toNat := UInt32.le_iff_toNat_le.1 hi
  have hlength : (data.search (q.turnedTo i)).data.length =
      min q.pageSize.toNat ((data.matching q).length - (i.toNat - 1) * q.pageSize.toNat) := by
    rw [search_turnedTo_data data q hi, List.length_take, List.length_drop]
  have hword := q.pageSize.toNat_lt
  obtain ⟨extent, hrange, htotal, hfirst, hlast⟩ :=
    ResultPage.range_eq q.pageSize hne (by omega)
  rw [search_turnedTo_page data q hi, max_eq_left hone] at hfirst hlast
  rw [search_turnedTo_total hbound] at hlast
  refine ⟨extent, hrange, htotal, by rw [hfirst, Nat.mul_comm], by omega, ?_⟩
  have hend : extent.last.toNat = min ((i.toNat - 1) * q.pageSize.toNat + q.pageSize.toNat)
      (data.matching q).length := by
    omega
  rw [search_turnedTo_data data q hi, hfirst, Nat.add_sub_cancel, hend, List.drop_take,
    List.take_eq_take_iff, List.length_drop]
  omega

theorem inPlace_turnedTo (hsize : 1 ≤ q.pageSize) (hi : 1 ≤ i) :
    data.InPlace q i (data.search (q.turnedTo i)) where
  number := search_turnedTo_page data q hi
  total := search_turnedTo_total hbound i
  next := nextPage?_turnedTo_iff hbound hsize hi
  range := range_turnedTo hbound hsize hi

/-! ## From page to page -/

theorem nextPage?_turnedTo_eq_none_iff (hi : 1 ≤ i) :
    (data.search (q.turnedTo i)).nextPage? q.pageSize = none ↔
      (data.matching q).length ≤ i.toNat * q.pageSize.toNat := by
  rw [← Nat.not_lt, ← hasNext_turnedTo_iff hbound hi, ResultPage.nextPage?]
  simp

theorem one_le_of_next (hsize : 1 ≤ q.pageSize) (hi : 1 ≤ i) {j : UInt32}
    (h : (data.search (q.turnedTo i)).nextPage? q.pageSize = some j) :
    j.toNat = i.toNat + 1 ∧ 1 ≤ j := by
  have hj := ((nextPage?_turnedTo_iff hbound hsize hi j).1 h).1
  refine ⟨hj, UInt32.le_iff_toNat_le.2 ?_⟩
  rw [UInt32.toNat_one]
  omega

/-- There are only so many numbers, and each next page has a higher one. -/
theorem exists_browses (hsize : 1 ≤ q.pageSize) (hi : 1 ≤ i) :
    ∃ pages, data.Browses q i pages := by
  have hrest (n : Nat) : ∀ i : UInt32, 1 ≤ i → 2 ^ 32 ≤ i.toNat + n →
      ∃ pages, data.Browses q i pages := by
    induction n with
    | zero =>
        intro i _ hn
        have hlt := i.toNat_lt
        omega
    | succ n ih =>
        intro i hi hn
        cases hnext : (data.search (q.turnedTo i)).nextPage? q.pageSize with
        | none => exact ⟨_, .last hnext⟩
        | some j =>
            obtain ⟨hj, hone⟩ := one_le_of_next hbound hsize hi hnext
            obtain ⟨pages, hpages⟩ := ih j hone (by omega)
            exact ⟨_, .next hnext hpages⟩
  exact hrest (2 ^ 32) i hi (Nat.le_add_left _ _)

theorem Browses.flatMap_data {pages : List (ResultPage Credential)} (h : data.Browses q i pages)
    (hsize : 1 ≤ q.pageSize) (hi : 1 ≤ i) :
    pages.flatMap (·.data) = (data.matching q).drop ((i.toNat - 1) * q.pageSize.toNat) := by
  induction h with
  | @last i hnext =>
      have hend := (nextPage?_turnedTo_eq_none_iff hbound hi).1 hnext
      have hlast := throughPage_eq q hi
      rw [List.flatMap_singleton, search_turnedTo_data data q hi, List.take_of_length_le]
      rw [List.length_drop]
      omega
  | @next i j pages hnext rest ih =>
      obtain ⟨hj, hone⟩ := one_le_of_next hbound hsize hi hnext
      have hbehind : (j.toNat - 1) * q.pageSize.toNat =
          (i.toNat - 1) * q.pageSize.toNat + q.pageSize.toNat := by
        rw [hj, Nat.add_sub_cancel, throughPage_eq q hi]
      rw [List.flatMap_cons, ih hone, search_turnedTo_data data q hi, hbehind, ← List.drop_drop,
        List.take_append_drop]

theorem Browses.pages {pages : List (ResultPage Credential)} (h : data.Browses q i pages)
    (hsize : 1 ≤ q.pageSize) (hi : 1 ≤ i) :
    pages.map (·.page.toNat) = List.range' i.toNat pages.length ∧
      ∀ page ∈ pages, data.InPlace q page.page page := by
  induction h with
  | @last i hnext =>
      have hplace := inPlace_turnedTo hbound hsize hi
      refine ⟨congrArg (fun n : UInt32 => [n.toNat]) hplace.number, fun page hpage => ?_⟩
      obtain rfl := List.mem_singleton.1 hpage
      rw [hplace.number]
      exact hplace
  | @next i j pages hnext rest ih =>
      have hplace := inPlace_turnedTo hbound hsize hi
      obtain ⟨hj, hone⟩ := one_le_of_next hbound hsize hi hnext
      obtain ⟨hnumbers, hpages⟩ := ih hone
      refine ⟨?_, fun page hpage => ?_⟩
      · rw [List.map_cons, hnumbers, hplace.number, hj, List.length_cons, List.range'_succ]
      · rcases List.mem_cons.1 hpage with rfl | hpage
        · rw [hplace.number]
          exact hplace
        · exact hpages page hpage

end

/-- Who goes through the pages comes to an end, with every record that matches
seen once and in the order of the file. Every page, on this way or not, tells
where it is and whether another one follows it. A query that names no page
begins at the first. -/
theorem browses_matching (data : Fixture) {q : Query} (hsize : 1 ≤ q.pageSize)
    (hbound : (data.matching q).length ≤ q.pageSize.toNat * (2 ^ 32 - 1)) :
    (∃ pages, data.Browses q 1 pages) ∧
      (∀ pages, data.Browses q 1 pages → pages.flatMap (·.data) = data.matching q ∧
        pages.map (·.page.toNat) = List.range' 1 pages.length ∧
        ∀ page ∈ pages, data.InPlace q page.page page) ∧
      (∀ i, 1 ≤ i → data.InPlace q i (data.search (q.turnedTo i))) ∧
      (q.page = 1 → data.search (q.turnedTo 1) = data.search q) := by
  have hone : (1 : UInt32) ≤ 1 := UInt32.le_refl 1
  refine ⟨exists_browses hbound hsize hone, fun pages hpages => ⟨?_, ?_⟩,
    fun i hi => inPlace_turnedTo hbound hsize hi,
    fun hpage => data.search_congr (Query.sameSearch_turnedTo hpage)⟩
  · rw [hpages.flatMap_data hbound hsize hone, UInt32.toNat_one, Nat.sub_self, Nat.zero_mul,
      List.drop_zero]
  · exact hpages.pages hbound hsize hone

/-- Four records, of which the second is archived. -/
def mixedRecords : Fixture where
  credentialKinds := []
  records := [⟨7, "a", 1, 1, "C", false⟩, ⟨8, "b", 1, 1, "C", true⟩, ⟨9, "a", 1, 1, "C", false⟩,
    ⟨5, "c", 2, 1, "C", false⟩]
  facets := .empty

/-- All records that are not archived, two to a page. -/
def twoToAPage : Query :=
  ⟨.empty, 2⟩

/-- Two pages, of which the second is not full and ends with the third place. -/
theorem browses_matching_mixed :
    1 ≤ twoToAPage.pageSize ∧
      (mixedRecords.matching twoToAPage).length ≤ twoToAPage.pageSize.toNat * (2 ^ 32 - 1) ∧
      (mixedRecords.matching twoToAPage).map (·.id) = [7, 9, 5] ∧
      (∃ pages, mixedRecords.Browses twoToAPage 1 pages ∧
        pages.flatMap (·.data) = mixedRecords.matching twoToAPage) ∧
      (mixedRecords.search (twoToAPage.turnedTo 2)).range 2 = some ⟨3, 3, 3⟩ ∧
      mixedRecords.InPlace twoToAPage 2 (mixedRecords.search (twoToAPage.turnedTo 2)) := by
  have hsize : 1 ≤ twoToAPage.pageSize := by decide
  have hbound : (mixedRecords.matching twoToAPage).length ≤
      twoToAPage.pageSize.toNat * (2 ^ 32 - 1) := by
    decide +kernel
  obtain ⟨⟨pages, hpages⟩, hall, hplaces, _⟩ := browses_matching mixedRecords hsize hbound
  exact ⟨hsize, hbound, by decide +kernel, ⟨pages, hpages, (hall pages hpages).1⟩,
    by decide +kernel, hplaces 2 (by decide)⟩

end Fixture

end RecordSearch
