import Mathlib.Data.List.TakeWhile
import RecordSearch.Proofs.Utf8
import RecordSearch.Urlencoded

/-!
# Reading the form encoding that was written

The format has four characters with a meaning of their own: `&` and `=` cut a
text into pairs and components, `+` and `%` stand for something inside one. The
writer uses the first two only for cutting, so the cuts come out where they
were made, and the other two only for what they stand for. Inside a component
the plus signs are read before the percent signs; a plus sign that belongs to
the text is written `%2B` and passes the first reading unseen.

The proof goes from the inside to the outside: a byte, a component, a pair, and
a list of pairs.
-/

namespace RecordSearch.Urlencoded

open RecordSearch.Text

theorem bne_of_not_mem {α : Type} [BEq α] [LawfulBEq α] {a : α} {as : List α} (h : a ∉ as) :
    ∀ b ∈ as, (b != a) = true := by
  intro b hb
  rw [bne_iff_ne]
  rintro rfl
  exact h hb

/-- The characters of a written component: those that stand for themselves, and
the two that stand for something else. -/
def IsWritten (c : Char) : Prop :=
  c = '+' ∨ c = '%' ∨ isKept c.toNat = true

theorem isKept_lt {n : Nat} (h : isKept n = true) : n < 0x80 := by
  simp [isKept] at h
  omega

theorem hexDigit_eq : ∀ n < 16, isKept (hexDigit n).toNat = true ∧
    hexValue (hexDigit n).toNat = some n := by
  decide

theorem isWritten_hexDigit {n : Nat} (h : n < 16) : IsWritten (hexDigit n) :=
  .inr (.inr (hexDigit_eq n h).1)

theorem toNat_ofNat_of_isKept {n : Nat} (h : isKept n = true) : (Char.ofNat n).toNat = n := by
  have hascii : ∀ n < 0x80, (Char.ofNat n).toNat = n := by decide
  exact hascii n (isKept_lt h)

theorem isWritten_of_mem_writeByte {b : UInt8} {c : Char} (h : c ∈ writeByte b) :
    IsWritten c := by
  have hb := b.toNat_lt
  rw [writeByte] at h
  split at h
  · exact .inl (List.mem_singleton.1 h)
  · split at h
    · next hkept =>
        obtain rfl := List.mem_singleton.1 h
        refine .inr (.inr ?_)
        rw [toNat_ofNat_of_isKept hkept]
        exact hkept
    · simp only [List.mem_cons, List.not_mem_nil, or_false] at h
      rcases h with rfl | rfl | rfl
      · exact .inr (.inl rfl)
      · exact isWritten_hexDigit (by omega)
      · exact isWritten_hexDigit (by omega)

theorem isWritten_of_mem_writeComponent {s : String} {c : Char} (h : c ∈ writeComponent s) :
    IsWritten c := by
  obtain ⟨b, _, hc⟩ := List.mem_flatMap.1 h
  exact isWritten_of_mem_writeByte hc

theorem IsWritten.ascii {c : Char} (h : IsWritten c) : c.toNat < 0x80 := by
  rcases h with rfl | rfl | hkept
  · decide
  · decide
  · exact isKept_lt hkept

/-- No other character with a meaning of its own is written. -/
theorem IsWritten.ne {c d : Char} (h : IsWritten c) (hplus : d ≠ '+') (hpercent : d ≠ '%')
    (hd : isKept d.toNat = false) : c ≠ d := by
  rintro rfl
  rcases h with rfl | rfl | hkept
  · exact hplus rfl
  · exact hpercent rfl
  · rw [hd] at hkept
    cases hkept

/-! ## Bytes -/

theorem percentDecode_cons_of_ne {b : UInt8} (h : b ≠ 0x25) (rest : List UInt8) :
    percentDecode (b :: rest) = b :: percentDecode rest := by
  match rest with
  | [] => rfl
  | [c] => rfl
  | hi :: lo :: rest => rw [percentDecode, if_neg h]

theorem percentDecode_escape {hi lo : UInt8} {h l : Nat} (hhi : hexValue hi.toNat = some h)
    (hlo : hexValue lo.toNat = some l) (rest : List UInt8) :
    percentDecode (0x25 :: hi :: lo :: rest) = UInt8.ofNat (16 * h + l) :: percentDecode rest := by
  rw [percentDecode, if_pos rfl, hhi, hlo]

theorem encode_append (cs ds : List Char) :
    Utf8.encode (cs ++ ds) = Utf8.encode cs ++ Utf8.encode ds :=
  List.flatMap_append

theorem encode_writeByte (b : UInt8) :
    Utf8.encode (writeByte b) = (writeByte b).map fun c => UInt8.ofNat c.toNat :=
  Utf8.encode_of_ascii fun _ hc => (isWritten_of_mem_writeByte hc).ascii

theorem plusToSpace_cons (b : UInt8) (rest : List UInt8) :
    plusToSpace (b :: rest) = (if b = 0x2B then 0x20 else b) :: plusToSpace rest := rfl

/-- The byte of a hexadecimal digit is no plus sign, so it is read as it is. -/
theorem plusToSpace_hexDigit {n : Nat} (hn : n < 16) (rest : List UInt8) :
    plusToSpace (UInt8.ofNat (hexDigit n).toNat :: rest) =
      UInt8.ofNat (hexDigit n).toNat :: plusToSpace rest := by
  have hplus : ∀ n < 16, UInt8.ofNat (hexDigit n).toNat ≠ 0x2B := by decide
  rw [plusToSpace_cons, if_neg (hplus n hn)]

theorem percentDecode_writeByte (b : UInt8) (rest : List UInt8) :
    percentDecode (plusToSpace (Utf8.encode (writeByte b) ++ rest)) =
      b :: percentDecode (plusToSpace rest) := by
  have hb := b.toNat_lt
  rw [encode_writeByte, writeByte]
  split
  · next hspace =>
      subst hspace
      exact percentDecode_cons_of_ne (by decide) _
  · split
    · next hkept =>
        have hplus : b ≠ 0x2B := by
          rintro rfl
          exact absurd hkept (by decide)
        have hpercent : b ≠ 0x25 := by
          rintro rfl
          exact absurd hkept (by decide)
        rw [List.map_cons, toNat_ofNat_of_isKept hkept, UInt8.ofNat_toNat, List.map_nil,
          List.singleton_append, plusToSpace_cons, if_neg hplus, percentDecode_cons_of_ne hpercent]
    · have hhigh : b.toNat / 16 < 16 := by omega
      have hlow : b.toNat % 16 < 16 := by omega
      have hdigits : 16 * (b.toNat / 16) + b.toNat % 16 = b.toNat := by omega
      have hbyte {n : Nat} (hn : n < 16) :
          hexValue (UInt8.ofNat (hexDigit n).toNat).toNat = some n := by
        have hascii := (isWritten_hexDigit hn).ascii
        rw [Utf8.toNat_ofNat_of_lt (by omega)]
        exact (hexDigit_eq n hn).2
      simp only [List.map_cons, List.map_nil, List.cons_append, List.nil_append]
      rw [plusToSpace_cons, if_neg (by decide), plusToSpace_hexDigit hhigh,
        plusToSpace_hexDigit hlow]
      show percentDecode (0x25 :: _) = _
      rw [percentDecode_escape (hbyte hhigh) (hbyte hlow), hdigits, UInt8.ofNat_toNat]

theorem percentDecode_cons_of_no_escape {hi lo : UInt8}
    (h : ∀ x y, hexValue hi.toNat = some x → hexValue lo.toNat = some y → False) (b : UInt8)
    (rest : List UInt8) :
    percentDecode (b :: hi :: lo :: rest) = b :: percentDecode (hi :: lo :: rest) := by
  rw [percentDecode]
  split
  · split
    · next x y hhi hlo => exact (h x y hhi hlo).elim
    · rfl
  · rfl

/-- A byte that is neither a percent sign nor a hexadecimal digit is in no escape,
so the bytes can be cut there. -/
theorem percentDecode_append {a : UInt8} (hpercent : a ≠ 0x25) (hdigit : hexValue a.toNat = none)
    (bytes rest : List UInt8) :
    percentDecode (bytes ++ a :: rest) = percentDecode bytes ++ a :: percentDecode rest := by
  have hcut := percentDecode_cons_of_ne hpercent rest
  have hone (b : UInt8) : percentDecode (b :: a :: rest) = b :: a :: percentDecode rest := by
    cases rest with
    | nil => rfl
    | cons lo more =>
        rw [percentDecode_cons_of_no_escape (fun x y hx _ => by rw [hdigit] at hx; cases hx), hcut]
  fun_induction percentDecode bytes with
  | case1 => exact hcut
  | case2 b => exact hone b
  | case3 b c =>
      rw [List.cons_append, List.singleton_append,
        percentDecode_cons_of_no_escape (fun x y _ hy => by rw [hdigit] at hy; cases hy), hone]
      rfl
  | case4 hi lo more h l hlo hhi ih =>
      rw [List.cons_append, List.cons_append, List.cons_append, percentDecode_escape hhi hlo, ih,
        List.cons_append]
  | case5 hi lo more hnone ih =>
      rw [List.cons_append, List.cons_append, List.cons_append,
        percentDecode_cons_of_no_escape hnone, ← List.cons_append, ← List.cons_append, ih,
        List.cons_append]
  | case6 b hi lo more hb ih =>
      rw [List.cons_append, percentDecode_cons_of_ne hb, ih, List.cons_append]

theorem percentDecode_cons_ne_nil (b : UInt8) (rest : List UInt8) :
    percentDecode (b :: rest) ≠ [] := by
  match rest with
  | [] => exact List.cons_ne_nil _ _
  | [c] => exact List.cons_ne_nil _ _
  | hi :: lo :: rest =>
      rw [percentDecode]
      repeat' split
      all_goals exact List.cons_ne_nil _ _

theorem percentDecode_eq_nil_iff {bytes : List UInt8} : percentDecode bytes = [] ↔ bytes = [] := by
  cases bytes with
  | nil => exact iff_of_true rfl rfl
  | cons b rest => exact iff_of_false (percentDecode_cons_ne_nil b rest) (List.cons_ne_nil b rest)

/-! ## Components -/

theorem percentDecode_writeBytes (bytes : List UInt8) :
    percentDecode (plusToSpace (Utf8.encode (bytes.flatMap writeByte))) = bytes := by
  induction bytes with
  | nil => rfl
  | cons b rest ih => rw [List.flatMap_cons, encode_append, percentDecode_writeByte, ih]

theorem readComponent_writeComponent (s : String) :
    readComponent (Utf8.encode (writeComponent s)) = s := by
  rw [readComponent, writeComponent, percentDecode_writeBytes, Utf8.decode_encode,
    String.ofList_toList]

theorem readComponent_eq_empty_iff {bytes : List UInt8} :
    readComponent bytes = "" ↔ bytes = [] := by
  rw [readComponent, String.ofList_eq_empty_iff, Utf8.decode_eq_nil_iff, percentDecode_eq_nil_iff,
    plusToSpace, List.map_eq_nil_iff]

/-- A component can be cut at a byte that stands for itself. -/
theorem readComponent_append {a : UInt8} (hascii : a.toNat < 0x80) (hplus : a ≠ 0x2B)
    (hpercent : a ≠ 0x25) (hdigit : hexValue a.toNat = none) (bytes rest : List UInt8) :
    (readComponent (bytes ++ a :: rest)).toList =
      (readComponent bytes).toList ++ Char.ofNat a.toNat :: (readComponent rest).toList := by
  have hspace : plusToSpace (bytes ++ a :: rest) = plusToSpace bytes ++ a :: plusToSpace rest := by
    rw [plusToSpace, List.map_append, List.map_cons, if_neg hplus]
    rfl
  rw [readComponent, readComponent, readComponent, String.toList_ofList, String.toList_ofList,
    String.toList_ofList, hspace, percentDecode_append hpercent hdigit,
    Utf8.decode_append_ascii hascii]

/-- A byte of a written component is none that cuts. -/
theorem ne_of_mem_encode {s : String} {b : UInt8} (h : b ∈ Utf8.encode (writeComponent s)) :
    b ≠ 0x26 ∧ b ≠ 0x3D := by
  rw [Utf8.encode_of_ascii fun _ hc => (isWritten_of_mem_writeComponent hc).ascii] at h
  obtain ⟨c, hc, rfl⟩ := List.mem_map.1 h
  have hwritten := isWritten_of_mem_writeComponent hc
  have hascii := hwritten.ascii
  have hamp := hwritten.ne (d := '&') (by decide) (by decide) (by decide)
  have heq := hwritten.ne (d := '=') (by decide) (by decide) (by decide)
  have hbyte : (UInt8.ofNat c.toNat).toNat = c.toNat := Utf8.toNat_ofNat_of_lt (by omega)
  constructor
  · intro hcut
    rw [hcut] at hbyte
    exact hamp (Char.toNat_inj.1 hbyte.symm)
  · intro hcut
    rw [hcut] at hbyte
    exact heq (Char.toNat_inj.1 hbyte.symm)

/-! ## Pairs -/

theorem encode_writePair (pair : String × String) :
    Utf8.encode (writePair pair) =
      Utf8.encode (writeComponent pair.1) ++ 0x3D :: Utf8.encode (writeComponent pair.2) :=
  encode_append _ _

theorem readPair_of_not_mem {piece : List UInt8} (h : 0x3D ∉ piece) :
    readPair piece = (readComponent piece, "") := by
  rw [readPair, List.takeWhile_eq_self_iff.2 (bne_of_not_mem h),
    List.dropWhile_eq_nil_iff.2 (bne_of_not_mem h)]
  rfl

theorem readPair_append {key : List UInt8} (h : 0x3D ∉ key) (value : List UInt8) :
    readPair (key ++ 0x3D :: value) = (readComponent key, readComponent value) := by
  rw [readPair, List.takeWhile_append_of_pos (bne_of_not_mem h),
    List.dropWhile_append_of_pos (bne_of_not_mem h), List.takeWhile_cons_of_neg (by decide),
    List.append_nil, List.dropWhile_cons_of_neg (by decide), List.drop_one, List.tail_cons]

theorem readPair_writePair (pair : String × String) :
    readPair (Utf8.encode (writePair pair)) = pair := by
  have hkey : 0x3D ∉ Utf8.encode (writeComponent pair.1) :=
    fun hmem => (ne_of_mem_encode hmem).2 rfl
  rw [encode_writePair, readPair_append hkey, readComponent_writeComponent,
    readComponent_writeComponent]

theorem readPair_key_eq_empty_iff {piece : List UInt8} :
    (readPair piece).1 = "" ↔ ∀ b ∈ piece.head?, b = 0x3D := by
  rw [readPair, readComponent_eq_empty_iff]
  cases piece with
  | nil => exact iff_of_true rfl fun b hb => absurd hb (Option.not_mem_none b)
  | cons b rest => simp [List.takeWhile_cons]

theorem length_readComponent_append {a : UInt8} (hascii : a.toNat < 0x80) (hplus : a ≠ 0x2B)
    (hpercent : a ≠ 0x25) (hdigit : hexValue a.toNat = none) (bytes rest : List UInt8) :
    (readComponent (bytes ++ a :: rest)).length =
      (readComponent bytes).length + 1 + (readComponent rest).length := by
  rw [← String.length_toList, readComponent_append hascii hplus hpercent hdigit,
    List.length_append, List.length_cons, String.length_toList, String.length_toList]
  omega

theorem length_readPair_value_le (piece : List UInt8) :
    (readPair piece).2.length ≤ (readComponent piece).length := by
  by_cases hmem : 0x3D ∈ piece
  · obtain ⟨key, value, rfl, hkey⟩ := List.eq_append_cons_of_mem hmem
    rw [readPair_append hkey,
      length_readComponent_append (by decide) (by decide) (by decide) (by decide)]
    exact Nat.le_add_left _ _
  · rw [readPair_of_not_mem hmem]
    exact Nat.zero_le _

/-- A question mark is none of the signs of the format: what stands before one in
a piece makes the key longer, or the value. -/
theorem readPair_append_question_ne (bytes rest : List UInt8) :
    readPair (bytes ++ 0x3F :: rest) ≠ readPair rest := by
  have hlength := length_readComponent_append (a := 0x3F) (by decide) (by decide) (by decide)
    (by decide)
  intro heq
  by_cases hbytes : 0x3D ∈ bytes
  · obtain ⟨key, value, rfl, hkey⟩ := List.eq_append_cons_of_mem hbytes
    rw [List.append_assoc, List.cons_append, readPair_append hkey] at heq
    have hvalue := length_readPair_value_le rest
    rw [← heq, hlength] at hvalue
    omega
  · have hkeys : (readComponent ((bytes ++ 0x3F :: rest).takeWhile (· != 0x3D))).length =
        (readComponent (rest.takeWhile (· != 0x3D))).length :=
      congrArg (fun pair => pair.1.length) heq
    rw [List.takeWhile_append_of_pos (bne_of_not_mem hbytes), List.takeWhile_cons_of_pos (by decide),
      hlength] at hkeys
    omega

theorem encode_writePair_ne_nil (pair : String × String) :
    Utf8.encode (writePair pair) ≠ [] := by
  rw [encode_writePair]
  simp

theorem amp_not_mem_encode_writePair (pair : String × String) :
    0x26 ∉ Utf8.encode (writePair pair) := by
  rw [encode_writePair, List.mem_append, List.mem_cons]
  rintro (hkey | hcut | hvalue)
  · exact (ne_of_mem_encode hkey).1 rfl
  · cases hcut
  · exact (ne_of_mem_encode hvalue).1 rfl

/-! ## Lists of pairs -/

theorem split_ne_nil (sep : UInt8) (bytes : List UInt8) : split sep bytes ≠ [] := by
  cases bytes with
  | nil => exact List.cons_ne_nil _ _
  | cons b rest =>
      rw [split]
      split
      · exact List.cons_ne_nil _ _
      · split
        · exact List.cons_ne_nil _ _
        · exact List.cons_ne_nil _ _

theorem split_of_not_mem {sep : UInt8} {piece : List UInt8} (h : sep ∉ piece) :
    split sep piece = [piece] := by
  induction piece with
  | nil => rfl
  | cons b rest ih =>
      rw [List.mem_cons, not_or] at h
      rw [split, if_neg (Ne.symm h.1), ih h.2]

theorem split_append (sep : UInt8) (bytes rest : List UInt8) :
    split sep (bytes ++ sep :: rest) = split sep bytes ++ split sep rest := by
  induction bytes with
  | nil =>
      have hcut : split sep (sep :: rest) = [] :: split sep rest := by rw [split, if_pos rfl]
      exact hcut
  | cons b bytes ih =>
      rw [List.cons_append, split, split, ih]
      split
      · rw [List.cons_append]
      · obtain ⟨piece, pieces, hpieces⟩ := List.exists_cons_of_ne_nil (split_ne_nil sep bytes)
        rw [hpieces, List.cons_append, List.cons_append]

theorem split_write {pairs : List (String × String)} (h : pairs ≠ []) :
    split 0x26 (Utf8.encode (write pairs)) =
      pairs.map fun pair => Utf8.encode (writePair pair) := by
  match pairs with
  | [] => exact absurd rfl h
  | [pair] => exact split_of_not_mem (amp_not_mem_encode_writePair pair)
  | pair :: next :: rest =>
      have hrest := split_write (List.cons_ne_nil next rest)
      have hcut : Utf8.encode ('&' :: write (next :: rest)) =
          0x26 :: Utf8.encode (write (next :: rest)) := rfl
      rw [write, encode_append, hcut, split_append,
        split_of_not_mem (amp_not_mem_encode_writePair pair), hrest]
      · rfl
      · simp

/-- Pairs are read as they were written. -/
theorem read_write (pairs : List (String × String)) : read (write pairs) = pairs := by
  by_cases hnil : pairs = []
  · subst hnil
    rfl
  · have hpieces : ∀ piece ∈ pairs.map fun pair => Utf8.encode (writePair pair),
        decide (piece ≠ []) = true := by
      intro piece hpiece
      obtain ⟨pair, _, rfl⟩ := List.mem_map.1 hpiece
      simpa using encode_writePair_ne_nil pair
    have hread : readPair ∘ (fun pair => Utf8.encode (writePair pair)) = id := by
      funext pair
      exact readPair_writePair pair
    rw [read, split_write hnil, List.filter_eq_self.2 hpieces, List.map_map, hread, List.map_id]

end RecordSearch.Urlencoded
