import Mathlib.Data.List.TakeWhile
import RecordSearch.Parameters
import RecordSearch.Proofs.Urlencoded

/-!
# A query string reads back as the parameters

`Parameters.parse` takes more than query strings. It looks for a question mark,
a fragment, an equals sign and a slash to find out what it was given. All of
these are escaped by the writer except the equals sign, and there is one of those
in every pair, so a written query string is never taken for an address or a
path. A question mark in front of it, as an address has one, is the first and
only one, and cuts off nothing.

What does not come back is a pair with an empty key, and no text at all is read
as such a pair. So a text that was read once can be written and read again as
often as one likes, and brings the same parameters each time.
-/

namespace RecordSearch

open RecordSearch.Urlencoded

theorem Urlencoded.mem_write {c : Char} {pairs : List (String × String)} (h : c ∈ write pairs) :
    c = '&' ∨ c = '=' ∨ IsWritten c := by
  have hpair {pair : String × String} (hc : c ∈ writePair pair) : c = '=' ∨ IsWritten c := by
    rw [writePair, List.mem_append, List.mem_cons] at hc
    rcases hc with hkey | hcut | hvalue
    · exact .inr (isWritten_of_mem_writeComponent hkey)
    · exact .inl hcut
    · exact .inr (isWritten_of_mem_writeComponent hvalue)
  match pairs with
  | [] => cases h
  | [pair] => exact .inr (hpair h)
  | pair :: next :: rest =>
      rw [write, List.mem_append, List.mem_cons] at h
      · rcases h with hc | hcut | hrest
        · exact .inr (hpair hc)
        · exact .inl hcut
        · exact mem_write hrest
      · simp

namespace Parameters

/-- Besides the signs that cut and those that stand for others, no character with
a meaning is written. -/
theorem not_mem_write {d : Char} (hamp : d ≠ '&') (heq : d ≠ '=') (hplus : d ≠ '+')
    (hpercent : d ≠ '%') (hd : isKept d.toNat = false) (pairs : List (String × String)) :
    d ∉ write pairs := by
  intro hmem
  rcases mem_write hmem with rfl | rfl | hwritten
  · exact hamp rfl
  · exact heq rfl
  · exact hwritten.ne hplus hpercent hd rfl

/-- The text in front of the fragment. -/
def beforeFragment (text : List Char) : List Char :=
  text.takeWhile (· != '#')

theorem beforeFragment_append {front : List Char} (h : '#' ∉ front) (back : List Char) :
    beforeFragment (front ++ back) = front ++ beforeFragment back :=
  List.takeWhile_append_of_pos (bne_of_not_mem h)

theorem beforeFragment_of_not_mem {text : List Char} (h : '#' ∉ text) :
    beforeFragment text = text :=
  List.takeWhile_eq_self_iff.2 (bne_of_not_mem h)

theorem beforeFragment_question (rest : List Char) :
    beforeFragment ('?' :: rest) = '?' :: beforeFragment rest := rfl

theorem queryPart_of_not_mem {raw : List Char} (h : '?' ∉ beforeFragment raw) :
    queryPart raw =
      if '=' ∈ beforeFragment raw ∨ '/' ∉ beforeFragment raw then beforeFragment raw else [] := by
  rw [queryPart]
  exact if_neg h

/-- The query begins after the first question mark. -/
theorem queryPart_of_question {raw front back : List Char}
    (h : beforeFragment raw = front ++ '?' :: back) (hfront : '?' ∉ front) :
    queryPart raw = back := by
  rw [beforeFragment] at h
  rw [queryPart]
  rw [h, if_pos (List.mem_append_right _ List.mem_cons_self),
    List.dropWhile_append_of_pos (bne_of_not_mem hfront), List.dropWhile_cons_of_neg (by decide),
    List.drop_one, List.tail_cons]

theorem beforeFragment_write (pairs : List (String × String)) :
    beforeFragment (write pairs) = write pairs :=
  beforeFragment_of_not_mem
    (not_mem_write (by decide) (by decide) (by decide) (by decide) (by decide) pairs)

theorem queryPart_write (pairs : List (String × String)) :
    queryPart (write pairs) = write pairs := by
  have hquestion : '?' ∉ write pairs :=
    not_mem_write (by decide) (by decide) (by decide) (by decide) (by decide) pairs
  have hslash : '/' ∉ write pairs :=
    not_mem_write (by decide) (by decide) (by decide) (by decide) (by decide) pairs
  rw [← beforeFragment_write pairs] at hquestion
  rw [queryPart_of_not_mem hquestion, beforeFragment_write, if_pos (.inr hslash)]

theorem queryPart_question_write {path : List Char} (h : ∀ c ∈ path, c ≠ '?' ∧ c ≠ '#')
    (pairs : List (String × String)) :
    queryPart (path ++ '?' :: write pairs) = write pairs := by
  have hshown : beforeFragment (path ++ '?' :: write pairs) = path ++ '?' :: write pairs := by
    rw [beforeFragment_append fun hmem => (h '#' hmem).2 rfl, beforeFragment_question,
      beforeFragment_write]
  exact queryPart_of_question hshown fun hmem => (h '?' hmem).1 rfl

theorem parse_encoded (p : Parameters) :
    parse p.encoded = ⟨p.pairs.filter fun pair => pair.1 ≠ ""⟩ := by
  rw [parse, encoded, String.toList_ofList, queryPart_write, read_write]

/-- The parameters that have a key. -/
def named (p : Parameters) : Parameters :=
  ⟨p.pairs.filter fun pair => pair.1 ≠ ""⟩

theorem toList_display {p : Parameters} (h : p.pairs ≠ []) :
    p.display.toList = '?' :: write p.pairs := by
  rw [display, if_neg h, String.toList_append, encoded, String.toList_ofList,
    String.toList_ofList]
  rfl

/-- The parameters at the end of an address come back, whatever path stands before
them. -/
theorem parse_append_display {path : String} (hpath : ∀ c ∈ path.toList, c ≠ '?' ∧ c ≠ '#')
    {p : Parameters} (h : p.pairs ≠ []) : parse (path ++ p.display) = p.named := by
  rw [parse, String.toList_append, toList_display h, queryPart_question_write hpath, read_write]
  rfl

theorem parse_display (p : Parameters) : parse p.display = p.named := by
  by_cases hnil : p.pairs = []
  · rw [display, if_pos hnil, named, hnil]
    rfl
  · rw [← String.empty_append (s := p.display)]
    exact parse_append_display (by simp) hnil

theorem not_mem_keys_parse (raw : String) : "" ∉ (parse raw).keys := by
  intro hmem
  obtain ⟨pair, hpair, hkey⟩ := List.mem_map.1 hmem
  exact of_decide_eq_true (List.mem_filter.1 hpair).2 hkey

theorem named_eq_self {p : Parameters} (h : "" ∉ p.keys) : p.named = p := by
  refine congrArg Parameters.mk (List.filter_eq_self.2 fun pair hpair => decide_eq_true ?_)
  intro hkey
  exact h (List.mem_map.2 ⟨pair, hpair, hkey⟩)

/-- Parameters come back from their query string, bare or at the end of an
address, in their order and with their repetitions; only pairs without a key do
not. Reading makes none of those out of any text, so what was read from a text
comes back unchanged. -/
theorem parse_written (p : Parameters) (raw : String) :
    parse p.encoded = p.named ∧ parse p.display = p.named ∧
      "" ∉ (parse raw).keys ∧
      parse (parse raw).encoded = parse raw ∧ parse (parse raw).display = parse raw := by
  have hraw : (parse raw).named = parse raw := named_eq_self (not_mem_keys_parse raw)
  exact ⟨parse_encoded p, parse_display p, not_mem_keys_parse raw,
    (parse_encoded (parse raw)).trans hraw, (parse_display (parse raw)).trans hraw⟩

/-- Repeated keys, a pair without one, and characters that would cut. -/
example : parse (display ⟨[("a", "1&2"), ("", "x"), ("a", "?"), ("é", "")]⟩) =
    ⟨[("a", "1&2"), ("a", "?"), ("é", "")]⟩ := by
  decide +kernel

end Parameters

end RecordSearch
