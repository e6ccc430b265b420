import Mathlib.Logic.Function.Iterate
import RecordSearch.Paging
import RecordSearch.Proofs.Filters.Values

/-!
# Page numbers in text

A page number goes into its field as a decimal, and is read from there every
time somebody asks for it, by the filters and by a query alike. Digits survive
the trimming of values, and reading them gives the number back, so a page turn
leads where it says.
-/

namespace RecordSearch

/-- The page number in a text, or the first page. -/
def pageNumber (text : Option String) : UInt32 :=
  ((text.bind Text.readUInt32).filter (1 ≤ ·)).getD 1

theorem one_le_pageNumber (text : Option String) : 1 ≤ pageNumber text := by
  rw [pageNumber]
  cases h : (text.bind Text.readUInt32).filter (1 ≤ ·) with
  | none => decide
  | some n => simpa using (Option.filter_eq_some_iff.1 h).2

namespace Text

theorem digitValue_of_isDigit {c : Char} (h : c.isDigit = true) :
    digitValue c = some (c.toNat - '0'.toNat) := by
  have hrange : '0' ≤ c ∧ c ≤ '9' := by simpa [Char.isDigit, Char.le_def] using h
  rw [digitValue, if_pos hrange]

theorem readDigits_of_isDigit {cs : List Char} (h : ∀ c ∈ cs, c.isDigit = true) (acc : Nat) :
    readDigits acc cs = some (Nat.ofDigitChars 10 cs acc) := by
  induction cs generalizing acc with
  | nil => rfl
  | cons c rest ih =>
      simp only [readDigits, digitValue_of_isDigit (h c List.mem_cons_self)]
      rw [ih fun d hd => h d (List.mem_cons_of_mem c hd), Nat.ofDigitChars_cons]

theorem isDigit_of_mem_toDigits {n : Nat} {c : Char} (h : c ∈ Nat.toDigits 10 n) :
    c.isDigit = true :=
  Nat.isDigit_of_mem_toDigits (by decide) (by decide) h

theorem readDecimal_toDigits (n : Nat) : readDecimal (Nat.toDigits 10 n) = some n := by
  have hdigits := readDigits_of_isDigit (fun _ => isDigit_of_mem_toDigits (n := n)) 0
  rw [Nat.ofDigitChars_ten_toDigits] at hdigits
  rw [readDecimal]
  · exact hdigits
  · exact Nat.toDigits_ne_nil

theorem toList_toString (n : UInt32) : (toString n).toList = Nat.toDigits 10 n.toNat :=
  Nat.toList_repr

theorem readUInt32_toString (n : UInt32) : readUInt32 (toString n) = some n := by
  have hplus : ∀ rest, Nat.toDigits 10 n.toNat ≠ '+' :: rest := by
    intro rest hsigned
    have hdigit := isDigit_of_mem_toDigits (n := n.toNat) (c := '+') (by simp [hsigned])
    exact absurd hdigit (by decide)
  have hbound : n.toNat ≤ 4294967295 := Nat.le_of_lt_succ n.toNat_lt
  rw [readUInt32, toList_toString, readBounded]
  · simp [readDecimal_toDigits, hbound]
  · exact hplus

theorem isBlank_of_isDigit {c : Char} (h : c.isDigit = true) : isBlank c = false := by
  have hrange : 48 ≤ c.toNat ∧ c.toNat ≤ 57 := by
    simp [Char.isDigit] at h
    exact h
  simp [isBlank, inRanges, blankRanges]
  omega

theorem trim_toString (n : UInt32) : trimChars (toString n).toList = (toString n).toList := by
  refine trimChars_of_isBlank fun c hc => isBlank_of_isDigit ?_
  rw [toList_toString] at hc
  exact isDigit_of_mem_toDigits hc

theorem normalize_toString (n : UInt32) : normalize (toString n) = some (toString n) := by
  rw [normalize_eq_some_iff, trim, trim_toString, String.ofList_toList, toList_toString]
  exact ⟨Nat.toDigits_ne_nil, rfl⟩

end Text

theorem pageNumber_toString {n : UInt32} (h : 1 ≤ n) : pageNumber (some (toString n)) = n := by
  rw [pageNumber, Option.bind_some, Text.readUInt32_toString, Option.filter,
    if_pos (decide_eq_true h), Option.getD_some]

theorem followingPage_toNat (page : UInt32) :
    (followingPage page).toNat = min (page.toNat + 1) 4294967295 := by
  have hbound := page.toNat_lt
  rw [followingPage]
  split
  · next hlast =>
      rw [hlast]
      rfl
  · next hlast =>
      have hne : page.toNat ≠ 4294967295 := fun heq => hlast (UInt32.toNat_inj.1 heq)
      rw [UInt32.toNat_add, UInt32.toNat_one, Nat.mod_eq_of_lt (by omega)]
      omega

theorem precedingPage_toNat (page : UInt32) :
    (precedingPage page).toNat = max 1 (page.toNat - 1) := by
  rw [precedingPage]
  split
  · next hfirst =>
      rw [UInt32.le_iff_toNat_le, UInt32.toNat_one] at hfirst
      rw [UInt32.toNat_one]
      omega
  · next hlater =>
      rw [UInt32.le_iff_toNat_le, UInt32.toNat_one] at hlater
      have hone : (1 : UInt32) ≤ page := by
        rw [UInt32.le_iff_toNat_le, UInt32.toNat_one]
        omega
      rw [UInt32.toNat_sub_of_le _ _ hone, UInt32.toNat_one]
      omega

theorem toNat_sub_one {n : UInt32} (h : 1 ≤ n) : (n - 1).toNat = n.toNat - 1 := by
  rw [UInt32.toNat_sub_of_le _ _ h, UInt32.toNat_one]

theorem one_le_toUInt64 {n : UInt32} (h : 1 ≤ n) : (1 : UInt64) ≤ n.toUInt64 := by
  rw [UInt64.le_iff_toNat_le, UInt32.toNat_toUInt64]
  exact UInt32.le_iff_toNat_le.1 h

theorem toUInt64_sub_one {n : UInt32} (h : 1 ≤ n) : n.toUInt64 - 1 = (n - 1).toUInt64 := by
  rw [← UInt64.toNat_inj, UInt64.toNat_sub_of_le _ _ (one_le_toUInt64 h), UInt32.toNat_toUInt64,
    UInt32.toNat_toUInt64, toNat_sub_one h, UInt64.toNat_one]

/-- The product of 32-bit numbers is a 64-bit number. -/
theorem toNat_toUInt64_mul (m n : UInt32) :
    (m.toUInt64 * n.toUInt64).toNat = m.toNat * n.toNat := by
  have hlt : m.toNat * n.toNat < 2 ^ 32 * 2 ^ 32 :=
    Nat.mul_lt_mul_of_lt_of_lt m.toNat_lt n.toNat_lt
  rw [UInt64.toNat_mul, UInt32.toNat_toUInt64, UInt32.toNat_toUInt64, Nat.mod_eq_of_lt (by omega)]

theorem one_le_max_one (page : UInt32) : 1 ≤ max page 1 := by
  rw [UInt32.le_iff_toNat_le, UInt32.toNat_max]
  exact Nat.le_max_right _ _

/-- The number of records before a page, of which there is none before page zero either. -/
theorem toNat_before (page pageSize : UInt32) :
    ((max page 1 - 1).toUInt64 * pageSize.toUInt64).toNat =
      (max page.toNat 1 - 1) * pageSize.toNat := by
  rw [toNat_toUInt64_mul, toNat_sub_one (one_le_max_one page), UInt32.toNat_max, UInt32.toNat_one]

/-- Behind the largest number of records before a page there is room for a page. -/
theorem before_le (page pageSize : UInt32) :
    (max page.toNat 1 - 1) * pageSize.toNat ≤ 4294967294 * 4294967295 := by
  have hpage := page.toNat_lt
  have hsize := pageSize.toNat_lt
  exact Nat.mul_le_mul (by omega) (by omega)

namespace PageTurn

theorem one_le_target (turn : PageTurn) {page : UInt32} (h : 1 ≤ page) : 1 ≤ turn.target page := by
  rw [UInt32.le_iff_toNat_le, UInt32.toNat_one] at h ⊢
  cases turn with
  | previous =>
      rw [target, precedingPage_toNat]
      omega
  | next =>
      rw [target, followingPage_toNat]
      omega

/-! Turns in one direction stop at the end at most once, so all of them together
are one sum that is cut off there. -/

theorem iterate_next_toNat (n : Nat) (page : UInt32) :
    (next.target^[n] page).toNat = min (page.toNat + n) 4294967295 := by
  induction n generalizing page with
  | zero =>
      have hbound := page.toNat_lt
      rw [Function.iterate_zero_apply]
      omega
  | succ n ih =>
      rw [Function.iterate_succ_apply, ih, target, followingPage_toNat]
      omega

theorem one_le_iterate_target (turn : PageTurn) (n : Nat) {page : UInt32} (h : 1 ≤ page) :
    1 ≤ turn.target^[n] page := by
  induction n generalizing page with
  | zero => exact h
  | succ n ih => exact ih (turn.one_le_target h)

theorem iterate_previous_toNat (n : Nat) {page : UInt32} (h : 1 ≤ page) :
    (previous.target^[n] page).toNat = max 1 (page.toNat - n) := by
  induction n generalizing page with
  | zero =>
      rw [UInt32.le_iff_toNat_le, UInt32.toNat_one] at h
      rw [Function.iterate_zero_apply]
      omega
  | succ n ih =>
      rw [Function.iterate_succ_apply, ih (previous.one_le_target h), target, precedingPage_toNat]
      omega

end PageTurn

namespace Query

theorem page_eq (q : Query) : q.page = pageNumber (q.get? pageField) := rfl

theorem one_le_page (q : Query) : 1 ≤ q.page :=
  one_le_pageNumber _

/-- The records before a page are as many as the pages before it hold. -/
theorem offset_toNat (q : Query) : q.offset.toNat = (q.page.toNat - 1) * q.pageSize.toNat := by
  rw [offset, toUInt64_sub_one q.one_le_page, toNat_toUInt64_mul, toNat_sub_one q.one_le_page]

end Query

namespace Filters

variable {fs : Filters} {key : String} {n : UInt32}

theorem page_eq (fs : Filters) (key : String) :
    fs.page key = pageNumber ((fs.value? key).map Text.trim) := by
  rw [page, pageNumber, Option.bind_map]
  rfl

theorem one_le_page (fs : Filters) (key : String) : 1 ≤ fs.page key := by
  rw [page_eq]
  exact one_le_pageNumber _

theorem page_of_value? (hvalue : fs.value? key = some (toString n)) (hn : 1 ≤ n) :
    fs.page key = n := by
  rw [page_eq, hvalue, Option.map_some, Text.trim, Text.trim_toString, String.ofList_toList,
    pageNumber_toString hn]

/-- A page number that is assigned is the page from then on. -/
theorem page_assign (hopen : fs.isClosed = false) (hkey : fs.contains key = true) (hn : 1 ≤ n)
    (source : Provenance) :
    (fs.assign [(key, some (toString n))] source).2.page key = n := by
  have hknown : ∀ change ∈ [(key, some (toString n))], fs.contains change.1 = true := by
    simpa using hkey
  have hok := assign_fst hopen hknown source
  obtain ⟨field, hfind⟩ := exists_field_of_contains hkey
  obtain ⟨hfield, hkeyed⟩ := field?_eq_some_iff.1 hfind
  refine page_of_value? ?_ hn
  rw [value?, field?_of_after (assign_fields_of_ok hok) hfield hkeyed, Option.bind_some,
    FieldState.after, FieldState.valueAfter_singleton, if_pos hkeyed, FieldState.effective,
    FieldSpec.effective, Text.normalize?, Option.bind_some, Text.normalize_toString,
    Option.some_or]

end Filters

end RecordSearch
