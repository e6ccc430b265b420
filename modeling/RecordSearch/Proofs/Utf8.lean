import RecordSearch.Text.Utf8

/-!
# Decoding what was encoded

The decoder replaces what is not UTF-8, so it loses something of most byte
sequences. Of the bytes of a text it loses nothing. The decoder enters a
character by its first byte, with a range for the second one, and the proof has
to see that the encoder never leaves that range: the shortest form is never
overlong, and a character is no surrogate and not above U+10FFFF. All later bytes
carry six bits each.
-/

namespace RecordSearch.Text.Utf8

theorem toNat_ofNat_of_lt {n : Nat} (h : n < 256) : (UInt8.ofNat n).toNat = n := by
  rw [UInt8.toNat_ofNat']
  omega

theorem decodeFrom_cons (st : State) (b : UInt8) (rest : List UInt8) :
    decodeFrom st (b :: rest) =
      (step st b.toNat).1 ++ decodeFrom (step st b.toNat).2 rest := by
  cases st with
  | idle => rfl
  | inside more bits low high => rfl

/-- A byte with six further bits, if it lies in the range. -/
theorem decodeFrom_inside {n low high : Nat} (hlow : low ≤ n % 64 + 0x80)
    (hhigh : n % 64 + 0x80 ≤ high) (more bits : Nat) (rest : List UInt8) :
    decodeFrom (.inside more bits low high) (UInt8.ofNat (n % 64 + 0x80) :: rest) =
      match more with
      | 0 => Char.ofNat (bits * 64 + n % 64) :: decodeFrom .idle rest
      | more + 1 => decodeFrom (.inside more (bits * 64 + n % 64) 0x80 0xBF) rest := by
  have hbyte : (UInt8.ofNat (n % 64 + 0x80)).toNat = n % 64 + 0x80 :=
    toNat_ofNat_of_lt (by omega)
  have hbits : n % 64 + 0x80 - 0x80 = n % 64 := by omega
  rw [decodeFrom_cons, hbyte, step, if_pos ⟨hlow, hhigh⟩, hbits]
  cases more with
  | zero => rfl
  | succ more => rfl

theorem start_of_two {n : Nat} (hlow : 0x80 ≤ n) (hhigh : n ≤ 0x7FF) :
    start (n / 64 % 32 + 0xC0) = ([], .inside 0 (n / 64) 0x80 0xBF) := by
  have hbits : n / 64 % 32 + 0xC0 - 0xC0 = n / 64 := by omega
  rw [start, if_neg (by omega), if_neg (by omega), if_pos (by omega), hbits]

theorem start_of_three {n : Nat} (hlow : 0x800 ≤ n) (hhigh : n ≤ 0xFFFF)
    (hvalid : n.isValidChar) :
    ∃ low high, start (n / 4096 % 16 + 0xE0) = ([], .inside 1 (n / 4096) low high) ∧
      low ≤ n / 64 % 64 + 0x80 ∧ n / 64 % 64 + 0x80 ≤ high := by
  have hbits : n / 4096 % 16 + 0xE0 - 0xE0 = n / 4096 := by omega
  rw [start, if_neg (by omega), if_neg (by omega), if_neg (by omega)]
  split
  · refine ⟨0xA0, 0xBF, ?_, by omega, by omega⟩
    rw [show n / 4096 = 0 by omega]
  · split
    · -- Surrogates have the same first byte and a higher second one.
      rw [Nat.isValidChar] at hvalid
      refine ⟨0x80, 0x9F, ?_, by omega, by omega⟩
      rw [show n / 4096 = 0xD by omega]
    · refine ⟨0x80, 0xBF, ?_, by omega, by omega⟩
      rw [if_pos (by omega), hbits]

theorem start_of_four {n : Nat} (hlow : 0xFFFF < n) (hvalid : n.isValidChar) :
    ∃ low high, start (n / 262144 % 8 + 0xF0) = ([], .inside 2 (n / 262144) low high) ∧
      low ≤ n / 4096 % 64 + 0x80 ∧ n / 4096 % 64 + 0x80 ≤ high := by
  rw [Nat.isValidChar] at hvalid
  have hbits : n / 262144 % 8 + 0xF0 - 0xF0 = n / 262144 := by omega
  rw [start, if_neg (by omega), if_neg (by omega), if_neg (by omega), if_neg (by omega),
    if_neg (by omega), if_neg (by omega)]
  split
  · refine ⟨0x90, 0xBF, ?_, by omega, by omega⟩
    rw [show n / 262144 = 0 by omega]
  · split
    · refine ⟨0x80, 0x8F, ?_, by omega, by omega⟩
      rw [show n / 262144 = 4 by omega]
    · refine ⟨0x80, 0xBF, ?_, by omega, by omega⟩
      rw [if_pos (by omega), hbits]

theorem decodeFrom_utf8EncodeChar (c : Char) (rest : List UInt8) :
    decodeFrom .idle (String.utf8EncodeChar c ++ rest) = c :: decodeFrom .idle rest := by
  have hvalid : c.val.toNat.isValidChar := c.valid
  have hc : Char.ofNat c.val.toNat = c := Char.ofNat_toNat c
  rw [String.utf8EncodeChar]
  generalize c.val.toNat = n at hvalid hc ⊢
  split
  · next h =>
      rw [List.singleton_append, decodeFrom_cons, toNat_ofNat_of_lt (by omega), step, start,
        if_pos (by omega), hc]
      rfl
  · split
    · next h =>
        rw [List.cons_append, List.cons_append, decodeFrom_cons, toNat_ofNat_of_lt (by omega),
          step, start_of_two (by omega) h, List.nil_append,
          decodeFrom_inside (by omega) (by omega), ← hc, List.nil_append]
        dsimp only
        rw [show n / 64 * 64 + n % 64 = n by omega]
    · split
      · next h =>
          obtain ⟨low, high, hstart, hlow, hhigh⟩ := start_of_three (by omega) h hvalid
          rw [List.cons_append, List.cons_append, List.cons_append, decodeFrom_cons,
            toNat_ofNat_of_lt (by omega), step, hstart, List.nil_append,
            decodeFrom_inside hlow hhigh]
          dsimp only
          rw [decodeFrom_inside (by omega) (by omega), ← hc, List.nil_append]
          dsimp only
          rw [show (n / 4096 * 64 + n / 64 % 64) * 64 + n % 64 = n by omega]
      · obtain ⟨low, high, hstart, hlow, hhigh⟩ := start_of_four (n := n) (by omega) hvalid
        rw [Nat.isValidChar] at hvalid
        rw [List.cons_append, List.cons_append, List.cons_append, List.cons_append,
          decodeFrom_cons, toNat_ofNat_of_lt (by omega), step, hstart, List.nil_append,
          decodeFrom_inside hlow hhigh]
        dsimp only
        rw [decodeFrom_inside (by omega) (by omega)]
        dsimp only
        rw [decodeFrom_inside (by omega) (by omega), ← hc, List.nil_append]
        dsimp only
        rw [show ((n / 262144 * 64 + n / 4096 % 64) * 64 + n / 64 % 64) * 64 + n % 64 = n by
          omega]

/-- Nothing is lost. -/
theorem decode_encode (cs : List Char) : decode (encode cs) = cs := by
  induction cs with
  | nil => rfl
  | cons c rest ih =>
      rw [encode, List.flatMap_cons, ← encode, decode, decodeFrom_utf8EncodeChar, ← decode, ih]

/-! ## ASCII

A byte below 0x80 is a character of its own wherever it stands. Inside a
character the decoder never waits for such a byte, so it gives up the character
and starts anew. -/

/-- A state from which no ASCII byte continues a character. -/
def State.BeyondAscii : State → Prop
  | .idle => True
  | .inside _ _ low _ => 0x80 ≤ low

/-- A first byte is a character, or nothing yet. -/
theorem start_cases (b : Nat) :
    (∃ c, start b = ([c], .idle)) ∨
      ∃ more bits low high, start b = ([], .inside more bits low high) ∧ 0x80 ≤ low := by
  generalize hstart : start b = out
  rw [start] at hstart
  repeat' split at hstart
  all_goals first
    | exact .inl ⟨_, hstart.symm⟩
    | exact .inr ⟨_, _, _, _, hstart.symm, by decide⟩

theorem start_beyondAscii (b : Nat) : (start b).2.BeyondAscii := by
  rcases start_cases b with ⟨c, hstart⟩ | ⟨more, bits, low, high, hstart, hlow⟩
  · rw [hstart]
    trivial
  · rw [hstart]
    exact hlow

theorem step_beyondAscii (st : State) (b : Nat) : (step st b).2.BeyondAscii := by
  cases st with
  | idle => exact start_beyondAscii b
  | inside more bits low high =>
      rw [step]
      split
      · cases more with
        | zero => trivial
        | succ more => exact Nat.le_refl 0x80
      · exact start_beyondAscii b

theorem decodeFrom_ascii {a : UInt8} (ha : a.toNat < 0x80) {st : State} (hst : st.BeyondAscii)
    (rest : List UInt8) :
    decodeFrom st (a :: rest) =
      decodeFrom st [] ++ Char.ofNat a.toNat :: decodeFrom .idle rest := by
  have hstart : start a.toNat = ([Char.ofNat a.toNat], .idle) := if_pos ha
  rw [decodeFrom_cons]
  cases st with
  | idle =>
      rw [step, hstart]
      rfl
  | inside more bits low high =>
      have hlow : 0x80 ≤ low := hst
      rw [step, if_neg (by omega), hstart]
      rfl

theorem decodeFrom_append_ascii {a : UInt8} (ha : a.toNat < 0x80) (rest : List UInt8)
    (bytes : List UInt8) {st : State} (hst : st.BeyondAscii) :
    decodeFrom st (bytes ++ a :: rest) =
      decodeFrom st bytes ++ Char.ofNat a.toNat :: decodeFrom .idle rest := by
  induction bytes generalizing st with
  | nil => exact decodeFrom_ascii ha hst rest
  | cons b bytes ih =>
      rw [List.cons_append, decodeFrom_cons, ih (step_beyondAscii st b.toNat), decodeFrom_cons,
        List.append_assoc]

theorem decode_append_ascii {a : UInt8} (ha : a.toNat < 0x80) (bytes rest : List UInt8) :
    decode (bytes ++ a :: rest) = decode bytes ++ Char.ofNat a.toNat :: decode rest :=
  decodeFrom_append_ascii ha rest bytes trivial

/-- A character that was begun ends as one, or as its replacement. -/
theorem decodeFrom_inside_ne_nil (bytes : List UInt8) (more bits low high : Nat) :
    decodeFrom (.inside more bits low high) bytes ≠ [] := by
  induction bytes generalizing more bits low high with
  | nil => exact List.cons_ne_nil _ _
  | cons b rest ih =>
      rw [decodeFrom_cons, step]
      split
      · cases more with
        | zero => exact List.cons_ne_nil _ _
        | succ more => exact ih more _ _ _
      · exact List.cons_ne_nil _ _

theorem decode_cons_ne_nil (b : UInt8) (rest : List UInt8) : decode (b :: rest) ≠ [] := by
  rw [decode, decodeFrom_cons, step]
  rcases start_cases b.toNat with ⟨c, hstart⟩ | ⟨more, bits, low, high, hstart, _⟩
  · rw [hstart]
    exact List.cons_ne_nil _ _
  · rw [hstart]
    exact decodeFrom_inside_ne_nil rest more bits low high

theorem decode_eq_nil_iff {bytes : List UInt8} : decode bytes = [] ↔ bytes = [] := by
  cases bytes with
  | nil => exact iff_of_true rfl rfl
  | cons b rest => exact iff_of_false (decode_cons_ne_nil b rest) (List.cons_ne_nil b rest)

/-- A character below U+0080 is one byte. -/
theorem encode_of_ascii {cs : List Char} (h : ∀ c ∈ cs, c.toNat < 0x80) :
    encode cs = cs.map fun c => UInt8.ofNat c.toNat := by
  induction cs with
  | nil => rfl
  | cons c rest ih =>
      have hc : c.val.toNat ≤ 127 := Nat.le_of_lt_succ (h c List.mem_cons_self)
      have hone : String.utf8EncodeChar c = [UInt8.ofNat c.toNat] := if_pos hc
      rw [encode, List.flatMap_cons, ← encode, hone,
        ih fun d hd => h d (List.mem_cons_of_mem _ hd), List.map_cons, List.singleton_append]

/-- A character with an ASCII byte is that byte. -/
theorem utf8EncodeChar_of_mem {c : Char} {b : UInt8} (h : b ∈ String.utf8EncodeChar c)
    (hb : b.toNat < 0x80) : String.utf8EncodeChar c = [b] ∧ c.toNat = b.toNat := by
  have hnat : c.toNat = c.val.toNat := rfl
  have hhigh (m : Nat) (hlow : 0x80 ≤ m) (hlt : m < 256) : b ≠ UInt8.ofNat m := by
    rintro rfl
    rw [toNat_ofNat_of_lt hlt] at hb
    omega
  have hvalid : c.val.toNat.isValidChar := c.valid
  rw [Nat.isValidChar] at hvalid
  rw [hnat]
  rw [String.utf8EncodeChar] at h ⊢
  generalize c.val.toNat = n at h hvalid ⊢
  split at h
  · next hone =>
      obtain rfl := List.mem_singleton.1 h
      rw [if_pos hone, toNat_ofNat_of_lt (by omega)]
      exact ⟨rfl, rfl⟩
  · exfalso
    split at h
    · simp only [List.mem_cons, List.not_mem_nil, or_false] at h
      rcases h with h | h
      all_goals exact hhigh _ (by omega) (by omega) h
    · split at h
      · simp only [List.mem_cons, List.not_mem_nil, or_false] at h
        rcases h with h | h | h
        all_goals exact hhigh _ (by omega) (by omega) h
      · simp only [List.mem_cons, List.not_mem_nil, or_false] at h
        rcases h with h | h | h | h
        all_goals exact hhigh _ (by omega) (by omega) h

theorem mem_of_mem_encode {d : Char} (hd : d.toNat < 0x80) {cs : List Char}
    (h : UInt8.ofNat d.toNat ∈ encode cs) : d ∈ cs := by
  obtain ⟨c, hc, hbyte⟩ := List.mem_flatMap.1 h
  have hnat : (UInt8.ofNat d.toNat).toNat = d.toNat := toNat_ofNat_of_lt (by omega)
  obtain ⟨_, heq⟩ := utf8EncodeChar_of_mem hbyte (by omega)
  rw [hnat] at heq
  rwa [← Char.toNat_inj.1 heq]

theorem utf8EncodeChar_ne_nil (c : Char) : String.utf8EncodeChar c ≠ [] := by
  intro h
  have hlost := decodeFrom_utf8EncodeChar c []
  rw [h] at hlost
  exact absurd hlost (List.cons_ne_nil _ _).symm

theorem head?_encode {d : Char} (hd : d.toNat < 0x80) (cs : List Char) :
    (encode cs).head? = some (UInt8.ofNat d.toNat) ↔ cs.head? = some d := by
  cases cs with
  | nil => simp [encode]
  | cons c rest =>
      have hcons : encode (c :: rest) = String.utf8EncodeChar c ++ encode rest :=
        List.flatMap_cons
      rw [hcons, List.head?_cons]
      constructor
      · intro h
        obtain ⟨b, bytes, hbytes⟩ := List.exists_cons_of_ne_nil (utf8EncodeChar_ne_nil c)
        rw [hbytes, List.cons_append, List.head?_cons, Option.some.injEq] at h
        subst h
        have hnat : (UInt8.ofNat d.toNat).toNat = d.toNat := toNat_ofNat_of_lt (by omega)
        have hmem : UInt8.ofNat d.toNat ∈ String.utf8EncodeChar c :=
          hbytes ▸ List.mem_cons_self
        obtain ⟨_, heq⟩ := utf8EncodeChar_of_mem hmem (by omega)
        rw [Char.toNat_inj.1 (heq.trans hnat)]
      · intro h
        obtain rfl := Option.some.inj h
        have hone : String.utf8EncodeChar c = [UInt8.ofNat c.toNat] :=
          if_pos (Nat.le_of_lt_succ hd)
        rw [hone]
        rfl

end RecordSearch.Text.Utf8
