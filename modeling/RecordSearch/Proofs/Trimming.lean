import Mathlib.Data.List.DropRight
import RecordSearch.Text.Blank

/-!
# Trimming twice is trimming once

Every value that reaches a field has been trimmed, and most are trimmed again
on the way: a control is trimmed when it is edited and once more when it is
submitted, a value is trimmed when it is set and once more when the address
that carries it is read back. None of this would be harmless if a second
trimming could still take something away.

Trimming drops blanks at the front, then at the back. What the second step
leaves is a front part of what the first one left, so it begins with the same
character, which is no blank. A text is trimmed, then, if neither of its ends is
blank.
-/

namespace RecordSearch.Text

theorem trimChars_eq (cs : List Char) :
    trimChars cs = (cs.dropWhile isBlank).rdropWhile isBlank := rfl

/-- A text that is cut at the back still begins with a character that is no
blank. -/
theorem dropWhile_trimChars (cs : List Char) :
    (trimChars cs).dropWhile isBlank = trimChars cs := by
  rw [List.dropWhile_eq_self_iff]
  intro hpos
  have hle : trimChars cs <+: cs.dropWhile isBlank := by
    rw [trimChars_eq]
    exact List.rdropWhile_prefix _ _
  have hpos' : 0 < (cs.dropWhile isBlank).length :=
    Nat.lt_of_lt_of_le hpos hle.length_le
  have hhead : (trimChars cs)[0] = (cs.dropWhile isBlank)[0] :=
    hle.getElem hpos
  rw [hhead]
  exact List.dropWhile_get_zero_not _ _ hpos'

theorem trimChars_trimChars (cs : List Char) :
    trimChars (trimChars cs) = trimChars cs := by
  rw [trimChars_eq (trimChars cs), dropWhile_trimChars, trimChars_eq]
  exact List.rdropWhile_idempotent _ _

theorem trim_trim (s : String) : trim (trim s) = trim s := by
  rw [trim, trim, String.toList_ofList, trimChars_trimChars]

/-! ## The ends of a trimmed text -/

theorem dropWhile_isBlank_eq_self_iff {cs : List Char} :
    cs.dropWhile isBlank = cs ↔ ∀ c ∈ cs.head?, isBlank c = false := by
  cases cs with
  | nil => simp
  | cons c rest =>
      rw [List.dropWhile_eq_self_iff]
      simp

/-- A text is trimmed if neither of its ends is blank. -/
theorem trimChars_eq_self_iff {cs : List Char} :
    trimChars cs = cs ↔
      (∀ c ∈ cs.head?, isBlank c = false) ∧ ∀ c ∈ cs.getLast?, isBlank c = false := by
  have hback : cs.rdropWhile isBlank = cs ↔ ∀ c ∈ cs.getLast?, isBlank c = false := by
    rw [List.rdropWhile, List.reverse_eq_iff, dropWhile_isBlank_eq_self_iff, List.head?_reverse]
  rw [← dropWhile_isBlank_eq_self_iff, ← hback]
  constructor
  · intro h
    have hfront : cs.dropWhile isBlank = cs := by
      rw [← h]
      exact dropWhile_trimChars cs
    rw [trimChars_eq, hfront] at h
    exact ⟨hfront, h⟩
  · rintro ⟨hfront, hback⟩
    rw [trimChars_eq, hfront, hback]

theorem trimChars_of_isBlank {cs : List Char} (h : ∀ c ∈ cs, isBlank c = false) :
    trimChars cs = cs :=
  trimChars_eq_self_iff.2 ⟨fun c hc => h c (List.mem_of_mem_head? hc),
    fun c hc => h c (List.mem_of_mem_getLast? hc)⟩

/-! ## Normal values -/

/-- What an input stands for stands for itself. -/
theorem normalize_of_eq_some {raw v : String} (h : normalize raw = some v) :
    normalize v = some v := by
  obtain ⟨hne, rfl⟩ := normalize_eq_some_iff.1 h
  rw [normalize_eq_some_iff]
  have htwice : trimChars (trim raw).toList = trimChars raw.toList := by
    rw [trim, String.toList_ofList, trimChars_trimChars]
  refine ⟨?_, ?_⟩
  · rw [htwice]
    exact hne
  · rw [trim, htwice, trim]

theorem normalize?_of_eq_some {raw : Option String} {v : String}
    (h : normalize? raw = some v) : normalize v = some v := by
  cases raw with
  | none => cases h
  | some text => exact normalize_of_eq_some h

theorem normalize_eq_self_iff {v : String} :
    normalize v = some v ↔ v ≠ "" ∧ (∀ c ∈ v.toList.head?, isBlank c = false) ∧
      ∀ c ∈ v.toList.getLast?, isBlank c = false := by
  rw [← trimChars_eq_self_iff, normalize_eq_some_iff, trim, ← String.toList_inj,
    String.toList_ofList]
  constructor
  · rintro ⟨hne, h⟩
    rw [h] at hne
    exact ⟨fun hempty => hne (by rw [hempty]; rfl), h⟩
  · rintro ⟨hne, h⟩
    rw [h]
    exact ⟨fun hempty => hne (String.toList_inj.1 hempty), rfl⟩

end RecordSearch.Text
