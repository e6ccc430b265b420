import RecordSearch.Proofs.Browsing

/-!
# Page arithmetic stays in its types

Page numbers and page sizes are 32-bit numbers and positions 64-bit ones, and both come
from outside. A formula over them is right only if nothing on the way to its result leaves
its type, which cannot be seen from the result, since what leaves it comes back at the
other end.

So each formula is computed a second time, in the order of its steps, by operations that
give nothing where the exact result is another one. They always give the same. The product
of the largest page and the largest size is what comes closest: behind it there is room
for the records of one more page, if these can be counted with 32 bits. The subtractions
rely on it that no query asks for page zero, and that a page zero counts as the first.
-/

namespace RecordSearch

/-! ## Operations that are exact -/

section Exact

variable {α : Type} (toNat : α → Nat)

/-- A sum, unless it leaves its type. -/
def sum? [Add α] (a b : α) : Option α :=
  if toNat (a + b) = toNat a + toNat b then some (a + b) else none

/-- A difference, unless it leaves its type. -/
def difference? [Sub α] (a b : α) : Option α :=
  if toNat (a - b) + toNat b = toNat a then some (a - b) else none

/-- A product, unless it leaves its type. -/
def product? [Mul α] (a b : α) : Option α :=
  if toNat (a * b) = toNat a * toNat b then some (a * b) else none

end Exact

theorem toNat_add_of_lt {a b : UInt64} (h : a.toNat + b.toNat < 2 ^ 64) :
    (a + b).toNat = a.toNat + b.toNat := by
  rw [UInt64.toNat_add, Nat.mod_eq_of_lt h]

theorem sum?_of_lt {a b : UInt64} (h : a.toNat + b.toNat < 2 ^ 64) :
    sum? UInt64.toNat a b = some (a + b) :=
  if_pos (toNat_add_of_lt h)

theorem difference?_of_le {a b : UInt64} (h : b ≤ a) :
    difference? UInt64.toNat a b = some (a - b) :=
  if_pos (by rw [UInt64.toNat_sub_of_le _ _ h, Nat.sub_add_cancel (UInt64.le_iff_toNat_le.1 h)])

theorem difference?_one {n : UInt32} (h : 1 ≤ n) :
    difference? UInt32.toNat n 1 = some (n - 1) :=
  if_pos (by rw [UInt32.toNat_sub_of_le _ _ h, Nat.sub_add_cancel (UInt32.le_iff_toNat_le.1 h)])

theorem product?_toUInt64 (m n : UInt32) :
    product? UInt64.toNat m.toUInt64 n.toUInt64 = some (m.toUInt64 * n.toUInt64) :=
  if_pos (by rw [toNat_toUInt64_mul, UInt32.toNat_toUInt64, UInt32.toNat_toUInt64])

/-! ## The formulas -/

/-- The number of records before the page of a query, step by step. -/
def Query.exactOffset? (q : Query) : Option UInt64 := do
  let before ← difference? UInt64.toNat q.page.toUInt64 1
  product? UInt64.toNat before q.pageSize.toUInt64

theorem Query.exactOffset?_eq (q : Query) : q.exactOffset? = some q.offset := by
  have hone := q.one_le_page
  rw [exactOffset?, difference?_of_le (one_le_toUInt64 hone), offset, toUInt64_sub_one hone]
  exact product?_toUInt64 _ _

namespace ResultPage

variable {α : Type} (r : ResultPage α) (pageSize : UInt32)

/-- The place of a page, step by step. -/
def exactRange? : Option (Option Extent) :=
  if r.data.isEmpty then some none
  else do
    let pages ← difference? UInt32.toNat (max r.page 1) 1
    let before ← product? UInt64.toNat pages.toUInt64 pageSize.toUInt64
    let first ← sum? UInt64.toNat before 1
    let beyond ← sum? UInt64.toNat first (UInt64.ofNat r.data.length)
    let last ← difference? UInt64.toNat beyond 1
    return some ⟨first, min last (max r.total first), r.total⟩

/-- Whether records remain after a page, step by step. -/
def exactHasNext? : Option Bool := do
  let through ← product? UInt64.toNat r.page.toUInt64 pageSize.toUInt64
  return through < r.total

/-- The number of the next page, step by step; at the last page number there is nothing to add. -/
def exactNextPage? : Option (Option UInt32) := do
  if ← r.exactHasNext? pageSize then
    if r.page = 4294967295 then return some r.page
    else (sum? UInt32.toNat r.page 1).map some
  else return none

/-- The number of the page before, step by step. -/
def exactPreviousPage? : Option (Option UInt32) :=
  if r.hasPrevious then (difference? UInt32.toNat r.page 1).map some else some none

theorem exactRange?_eq (hlength : r.data.length < 2 ^ 32) :
    r.exactRange? pageSize = some (r.range pageSize) := by
  have hroom := before_le r.page pageSize
  rw [← toNat_before] at hroom
  have hcount : (UInt64.ofNat r.data.length).toNat = r.data.length := by
    rw [UInt64.toNat_ofNat', Nat.mod_eq_of_lt (by omega)]
  have hproduct := product?_toUInt64 (max r.page 1 - 1) pageSize
  rw [exactRange?, range, difference?_one (one_le_max_one r.page)]
  split
  · rfl
  · dsimp only [Option.bind_eq_bind, Option.bind_some]
    rw [hproduct]
    generalize (max r.page 1 - 1).toUInt64 * pageSize.toUInt64 = before at hroom ⊢
    generalize UInt64.ofNat r.data.length = count at hcount ⊢
    have hone : (1 : UInt64).toNat = 1 := UInt64.toNat_one
    have hfirst := toNat_add_of_lt (a := before) (b := 1) (by omega)
    have hbeyond := toNat_add_of_lt (a := before + 1) (b := count) (by omega)
    have hle : (1 : UInt64) ≤ before + 1 + count := by
      rw [UInt64.le_iff_toNat_le]
      omega
    have hlast : before + 1 + count - 1 = before + count := by
      rw [UInt64.add_assoc, UInt64.add_comm 1, ← UInt64.add_assoc, UInt64.add_sub_cancel]
    rw [Option.bind_some, sum?_of_lt (by omega), Option.bind_some, sum?_of_lt (by omega),
      Option.bind_some, difference?_of_le hle, Option.bind_some, hlast]
    rfl

theorem exactHasNext?_eq : r.exactHasNext? pageSize = some (r.hasNext pageSize) := by
  rw [exactHasNext?, product?_toUInt64]
  rfl

theorem exactNextPage?_eq : r.exactNextPage? pageSize = some (r.nextPage? pageSize) := by
  rw [exactNextPage?, exactHasNext?_eq, nextPage?, followingPage]
  dsimp only [Option.bind_eq_bind, Option.bind_some]
  cases r.hasNext pageSize with
  | false => rfl
  | true =>
      rw [if_pos rfl, if_pos rfl]
      split
      · rfl
      · next hlast =>
          have hlt : r.page.toNat + 1 < 2 ^ 32 := by
            have hne : r.page.toNat ≠ 4294967295 := fun heq => hlast (UInt32.toNat_inj.1 heq)
            have hbound := r.page.toNat_lt
            omega
          have hsum : sum? UInt32.toNat r.page 1 = some (r.page + 1) :=
            if_pos (by rw [UInt32.toNat_add, UInt32.toNat_one, Nat.mod_eq_of_lt hlt])
          rw [hsum, Option.map_some]

theorem exactPreviousPage?_eq : r.exactPreviousPage? = some r.previousPage? := by
  rw [exactPreviousPage?, previousPage?]
  split
  · next hlater =>
      have hone : (1 : UInt32) ≤ r.page := UInt32.le_of_lt (of_decide_eq_true hlater)
      rw [difference?_one hone, Option.map_some]
  · rfl

/-! ## The results -/

variable {r pageSize}

/-- A place goes from its first record to no later than the data reach, and within the
total, if it begins within it. -/
theorem range_bounds (hlength : r.data.length < 2 ^ 32) {extent : Extent}
    (h : r.range pageSize = some extent) :
    extent.total = r.total ∧ extent.first ≤ extent.last ∧
      extent.last.toNat ≤ extent.first.toNat + r.data.length - 1 ∧
      (extent.first ≤ extent.total → extent.last ≤ extent.total) := by
  have hne : r.data ≠ [] := by
    rintro hnil
    rw [range, hnil] at h
    cases h
  have hpos := List.length_pos_iff.2 hne
  obtain ⟨extent', hrange, htotal, hfirst, hlast⟩ := range_eq pageSize hne hlength
  obtain rfl := Option.some.inj (hrange.symm.trans h)
  rw [UInt64.le_iff_toNat_le, UInt64.le_iff_toNat_le, UInt64.le_iff_toNat_le, htotal]
  refine ⟨rfl, ?_, ?_, ?_⟩
  · omega
  · omega
  · omega

theorem toNat_of_nextPage? {n : UInt32} (h : r.nextPage? pageSize = some n) :
    n.toNat = min (r.page.toNat + 1) (2 ^ 32 - 1) := by
  rw [nextPage?] at h
  split at h
  · obtain rfl := Option.some.inj h
    exact followingPage_toNat r.page
  · cases h

theorem toNat_of_previousPage? {n : UInt32} (h : r.previousPage? = some n) :
    n.toNat + 1 = r.page.toNat ∧ 1 ≤ n := by
  rw [previousPage?] at h
  split at h
  · next hlater =>
      obtain rfl := Option.some.inj h
      have hlt : 1 < r.page.toNat := UInt32.lt_iff_toNat_lt.1 (of_decide_eq_true hlater)
      have hone : (1 : UInt32) ≤ r.page := UInt32.le_iff_toNat_le.2 (Nat.le_of_lt hlt)
      rw [UInt32.le_iff_toNat_le, toNat_sub_one hone, UInt32.toNat_one]
      omega
  · cases h

/-- Whatever page and page size come in, no step of the formulas leaves its type, and the
places and page numbers they give lie where they should. -/
theorem paging_exact (q : Query) (r : ResultPage α) (pageSize : UInt32)
    (hlength : r.data.length < 2 ^ 32) :
    (q.exactOffset? = some q.offset ∧
      r.exactRange? pageSize = some (r.range pageSize) ∧
      r.exactHasNext? pageSize = some (r.hasNext pageSize) ∧
      r.exactNextPage? pageSize = some (r.nextPage? pageSize) ∧
      r.exactPreviousPage? = some r.previousPage?) ∧
    (∀ extent, r.range pageSize = some extent →
      extent.total = r.total ∧ extent.first ≤ extent.last ∧
        extent.last.toNat ≤ extent.first.toNat + r.data.length - 1 ∧
        (extent.first ≤ extent.total → extent.last ≤ extent.total)) ∧
    (∀ n, r.nextPage? pageSize = some n → n.toNat = min (r.page.toNat + 1) (2 ^ 32 - 1)) ∧
    (∀ n, r.previousPage? = some n → n.toNat + 1 = r.page.toNat ∧ 1 ≤ n) := by
  refine ⟨⟨q.exactOffset?_eq, ?_, ?_, ?_, ?_⟩, ?_, ?_, ?_⟩
  · exact r.exactRange?_eq pageSize hlength
  · exact r.exactHasNext?_eq pageSize
  · exact r.exactNextPage?_eq pageSize
  · exact r.exactPreviousPage?_eq
  · exact fun extent h => range_bounds hlength h
  · exact fun n h => toNat_of_nextPage? h
  · exact fun n h => toNat_of_previousPage? h

/-- The largest page of the largest size, which says that there is a total of one record. -/
def farthest : ResultPage Nat :=
  ⟨[7], .empty, 1, 4294967295⟩

/-- It begins beyond its total, and ends where it begins. -/
theorem paging_exact_farthest :
    farthest.data.length < 2 ^ 32 ∧
      farthest.range 4294967295 = some ⟨18446744060824649731, 18446744060824649731, 1⟩ ∧
      farthest.exactRange? 4294967295 = some (farthest.range 4294967295) ∧
      farthest.previousPage? = some 4294967294 ∧ (1 : UInt32) ≤ 4294967294 := by
  obtain ⟨⟨_, hrange, _⟩, _, _, hprevious⟩ :=
    paging_exact ⟨.empty, 4294967295⟩ farthest 4294967295 (by decide)
  exact ⟨by decide, by decide, hrange, by decide, (hprevious 4294967294 (by decide)).2⟩

end ResultPage

end RecordSearch
