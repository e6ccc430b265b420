import Mathlib.Data.List.DropRight
import RecordSearch.Proofs.QueryString

/-!
# Texts that are all query

Once it is known which part of a text is the query, what it brings is told piece
by piece. A piece is what stands between ampersands; it brings a pair, unless it
has no key, which is when it is empty or begins with an equals sign. Pieces do
not see each other, so a text can be cut next to any ampersand.

It cannot be cut inside a piece, and in particular not at a question mark there.
What stands in front of the question mark makes the key or the value longer, so
dropping it is noticed, with one exception: a piece without a key brings nothing,
whatever it holds, and then the text before it can take the place of what a cut
would have brought.
-/

namespace RecordSearch.Parameters

open RecordSearch.Text RecordSearch.Urlencoded

/-- The pairs that a text brings that is all query. -/
def queryPairs (text : List Char) : List (String × String) :=
  (Urlencoded.read text).filter fun pair => pair.1 ≠ ""

theorem parse_eq (raw : String) : parse raw = ⟨queryPairs (queryPart raw.toList)⟩ := rfl

theorem queryPairs_nil : queryPairs [] = [] := rfl

variable {front back piece text : List Char}

/-! ## Pieces -/

/-- A piece without a key: nothing, or an equals sign in front. -/
def NoKey (piece : List Char) : Prop :=
  ∀ c ∈ piece.head?, c = '='

theorem noKey_cons_iff {c : Char} {rest : List Char} : NoKey (c :: rest) ↔ c = '=' := by
  simp [NoKey]

theorem noKey_nil : NoKey [] := fun _ hc => nomatch hc

instance : (piece : List Char) → Decidable (NoKey piece)
  | [] => isTrue noKey_nil
  | c :: _ => decidable_of_iff (c = '=') noKey_cons_iff.symm

theorem key_eq_empty_iff (piece : List Char) :
    (readPair (Utf8.encode piece)).1 = "" ↔ NoKey piece := by
  rw [readPair_key_eq_empty_iff]
  cases piece with
  | nil => exact iff_of_true (fun _ hb => nomatch hb) noKey_nil
  | cons c rest =>
      have hhead := Utf8.head?_encode (d := '=') (by decide) (c :: rest)
      rw [noKey_cons_iff]
      cases hbytes : Utf8.encode (c :: rest) with
      | nil => exact absurd (List.append_eq_nil_iff.1 hbytes).1 (Utf8.utf8EncodeChar_ne_nil c)
      | cons b bytes =>
          rw [hbytes] at hhead
          simpa using hhead

section

variable (h : '&' ∉ piece)
include h

theorem split_encode_of_not_mem : split 0x26 (Utf8.encode piece) = [Utf8.encode piece] :=
  split_of_not_mem fun hmem => h (Utf8.mem_of_mem_encode (d := '&') (by decide) hmem)

theorem queryPairs_of_noKey (hkey : NoKey piece) : queryPairs piece = [] := by
  rw [queryPairs, Urlencoded.read, split_encode_of_not_mem h]
  by_cases hnil : Utf8.encode piece = []
  · simp [hnil]
  · simp [hnil, (key_eq_empty_iff piece).2 hkey]

theorem queryPairs_of_key (hkey : ¬ NoKey piece) :
    queryPairs piece = [readPair (Utf8.encode piece)] := by
  have hname : (readPair (Utf8.encode piece)).1 ≠ "" := mt (key_eq_empty_iff piece).1 hkey
  have hnil : Utf8.encode piece ≠ [] := by
    intro hnil
    rw [hnil] at hname
    exact hname rfl
  rw [queryPairs, Urlencoded.read, split_encode_of_not_mem h]
  simp [hnil, hname]

end

theorem queryPairs_append_amp (front back : List Char) :
    queryPairs (front ++ '&' :: back) = queryPairs front ++ queryPairs back := by
  have hbytes : Utf8.encode (front ++ '&' :: back) =
      Utf8.encode front ++ 0x26 :: Utf8.encode back :=
    encode_append front ('&' :: back)
  simp only [queryPairs, Urlencoded.read, hbytes, split_append, List.filter_append,
    List.map_append]

/-- A text that ends before a piece begins. -/
def BeforePiece (front : List Char) : Prop :=
  ∀ d ∈ front.getLast?, d = '&'

/-- A text that begins after a piece has ended. -/
def AfterPiece (back : List Char) : Prop :=
  ∀ d ∈ back.head?, d = '&'

theorem BeforePiece.queryPairs_append (h : BeforePiece front) (back : List Char) :
    queryPairs (front ++ back) = queryPairs front ++ queryPairs back := by
  rcases List.eq_nil_or_concat front with rfl | ⟨init, d, rfl⟩
  · rfl
  · rw [List.concat_eq_append] at h ⊢
    obtain rfl := h d List.getLast?_concat
    rw [List.append_assoc, List.singleton_append, queryPairs_append_amp, queryPairs_append_amp,
      queryPairs_nil, List.append_nil]

theorem AfterPiece.queryPairs_append (h : AfterPiece back) (front : List Char) :
    queryPairs (front ++ back) = queryPairs front ++ queryPairs back := by
  cases back with
  | nil => rw [queryPairs_nil, List.append_nil, List.append_nil]
  | cons d rest =>
      obtain rfl := h d rfl
      rw [queryPairs_append_amp, ← List.nil_append ('&' :: rest), queryPairs_append_amp]
      rfl

theorem exists_last_piece (front : List Char) :
    ∃ earlier last, front = earlier ++ last ∧ BeforePiece earlier ∧ '&' ∉ last := by
  refine ⟨front.rdropWhile (· != '&'), front.rtakeWhile (· != '&'),
    List.rdropWhile_append_rtakeWhile.symm, ?_, ?_⟩
  · intro d hd
    obtain ⟨hne, rfl⟩ := List.mem_getLast?_eq_getLast hd
    simpa using List.rdropWhile_last_not _ front hne
  · intro hmem
    exact absurd (List.mem_rtakeWhile_imp hmem) (by decide)

theorem exists_first_piece (back : List Char) :
    ∃ first later, back = first ++ later ∧ '&' ∉ first ∧ AfterPiece later := by
  refine ⟨back.takeWhile (· != '&'), back.dropWhile (· != '&'),
    List.takeWhile_append_dropWhile.symm, ?_, ?_⟩
  · intro hmem
    exact absurd (List.mem_takeWhile_imp hmem) (by decide)
  · intro d hd
    have hnot := List.head?_dropWhile_not (· != '&') back
    rw [Option.mem_def.1 hd] at hnot
    simpa using hnot

/-- A text is a piece, or two texts with an ampersand between them. -/
@[elab_as_elim]
theorem pieces_induction {motive : List Char → Prop} (piece : ∀ text, '&' ∉ text → motive text)
    (cut : ∀ front back, motive front → motive back → motive (front ++ '&' :: back))
    (text : List Char) : motive text := by
  by_cases hamp : '&' ∈ text
  · obtain ⟨front, back, hcut⟩ := List.append_of_mem hamp
    have hlength : text.length = front.length + (back.length + 1) := by
      rw [hcut, List.length_append, List.length_cons]
    rw [hcut]
    exact cut front back (pieces_induction piece cut front) (pieces_induction piece cut back)
  · exact piece text hamp
termination_by text.length

/-! ## Texts that bring nothing -/

/-- No piece has a key. -/
def Keyless (text : List Char) : Prop :=
  ∀ piece ∈ text.splitOn '&', NoKey piece

instance (text : List Char) : Decidable (Keyless text) :=
  List.decidableBAll NoKey (text.splitOn '&')

theorem keyless_of_not_mem (h : '&' ∉ piece) : Keyless piece ↔ NoKey piece := by
  rw [Keyless, List.splitOn_eq_singleton h, List.forall_mem_singleton]

theorem keyless_append_amp (front back : List Char) :
    Keyless (front ++ '&' :: back) ↔ Keyless front ∧ Keyless back := by
  rw [Keyless, List.splitOn_append_cons_self, List.forall_mem_append]
  rfl

theorem queryPairs_eq_nil_iff (text : List Char) : queryPairs text = [] ↔ Keyless text := by
  induction text using pieces_induction with
  | piece text hamp =>
      rw [keyless_of_not_mem hamp]
      by_cases hkey : NoKey text
      · exact iff_of_true (queryPairs_of_noKey hamp hkey) hkey
      · rw [queryPairs_of_key hamp hkey]
        exact iff_of_false (List.cons_ne_nil _ _) hkey
  | cut front back ihfront ihback =>
      rw [keyless_append_amp, queryPairs_append_amp, List.append_eq_nil_iff, ihfront, ihback]

theorem Keyless.eq_amp (h : Keyless text) (hequals : '=' ∉ text) {c : Char} (hc : c ∈ text) :
    c = '&' := by
  induction text using pieces_induction with
  | piece text hamp =>
      rw [keyless_of_not_mem hamp] at h
      obtain ⟨d, rest, rfl⟩ := List.exists_cons_of_ne_nil (List.ne_nil_of_mem hc)
      obtain rfl := noKey_cons_iff.1 h
      exact absurd List.mem_cons_self hequals
  | cut front back ihfront ihback =>
      rw [keyless_append_amp] at h
      rw [List.mem_append, List.mem_cons, not_or, not_or] at hequals
      rcases List.mem_append.1 hc with hmem | hmem
      · exact ihfront h.1 hequals.1 hmem
      · rcases List.mem_cons.1 hmem with hamp | hmem
        · exact hamp
        · exact ihback h.2 hequals.2.2 hmem

/-! ## Cutting inside a piece -/

/-- The text in front of a question mark is not missed when it is dropped: the
piece around the question mark has no key, and the pieces before that bring what
the rest of it brings. -/
def Overlooked (front back : List Char) : Prop :=
  ∃ earlier last first later, front = earlier ++ '=' :: last ∧ back = first ++ later ∧
    BeforePiece earlier ∧ '&' ∉ last ++ first ∧ AfterPiece later ∧
    queryPairs earlier = queryPairs first

theorem queryPairs_equals_question {last first : List Char} (h : '&' ∉ last ++ first) :
    queryPairs ('=' :: last ++ '?' :: first) = [] := by
  have hpiece : '&' ∉ '=' :: last ++ '?' :: first := by
    simpa using h
  exact queryPairs_of_noKey hpiece (noKey_cons_iff.2 rfl)

/-- A piece with a key in front of a question mark brings a pair that no cut at
the question mark would. -/
theorem queryPairs_question_ne {last first : List Char} (hlast : '&' ∉ last) (hfirst : '&' ∉ first)
    (hkey : ¬ NoKey (last ++ '?' :: first)) (earlier : List (String × String)) :
    earlier ++ queryPairs (last ++ '?' :: first) ≠ queryPairs first := by
  have hpiece : '&' ∉ last ++ '?' :: first := by
    simp [hlast, hfirst]
  have hbytes : Utf8.encode (last ++ '?' :: first) =
      Utf8.encode last ++ 0x3F :: Utf8.encode first :=
    encode_append last ('?' :: first)
  rw [queryPairs_of_key hpiece hkey, hbytes]
  intro heq
  by_cases hrest : NoKey first
  · rw [queryPairs_of_noKey hfirst hrest] at heq
    exact absurd (List.append_eq_nil_iff.1 heq).2 (List.cons_ne_nil _ _)
  · rw [queryPairs_of_key hfirst hrest] at heq
    have hpair := congrArg List.getLast? heq
    rw [List.getLast?_concat, List.getLast?_singleton, Option.some.injEq] at hpair
    exact readPair_append_question_ne _ _ hpair

theorem queryPairs_append_question_iff (front back : List Char) :
    queryPairs (front ++ '?' :: back) = queryPairs back ↔ Overlooked front back := by
  have haround {earlier last first later : List Char} (hbefore : BeforePiece earlier)
      (hafter : AfterPiece later) :
      queryPairs ((earlier ++ last) ++ '?' :: (first ++ later)) =
        queryPairs earlier ++ queryPairs (last ++ '?' :: first) ++ queryPairs later := by
    rw [← hbefore.queryPairs_append, ← hafter.queryPairs_append, List.append_assoc,
      List.append_assoc, List.append_assoc, List.cons_append]
  constructor
  · intro heq
    obtain ⟨earlier, last, rfl, hbefore, hlast⟩ := exists_last_piece front
    obtain ⟨first, later, rfl, hfirst, hafter⟩ := exists_first_piece back
    rw [haround hbefore hafter, hafter.queryPairs_append, List.append_cancel_right_eq] at heq
    by_cases hkey : NoKey (last ++ '?' :: first)
    · cases last with
      | nil => exact absurd (noKey_cons_iff.1 hkey) (by decide)
      | cons c last =>
          obtain rfl := noKey_cons_iff.1 hkey
          have hamp : '&' ∉ last ++ first := by
            rw [List.mem_append, not_or]
            exact ⟨fun hmem => hlast (List.mem_cons_of_mem _ hmem), hfirst⟩
          rw [queryPairs_equals_question hamp, List.append_nil] at heq
          exact ⟨earlier, last, first, later, rfl, rfl, hbefore, hamp, hafter, heq⟩
    · exact absurd heq (queryPairs_question_ne hlast hfirst hkey _)
  · rintro ⟨earlier, last, first, later, rfl, rfl, hbefore, hamp, hafter, heq⟩
    rw [haround hbefore hafter, queryPairs_equals_question hamp, List.append_nil, heq,
      hafter.queryPairs_append]

end RecordSearch.Parameters
