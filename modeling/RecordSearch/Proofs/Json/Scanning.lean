import Mathlib.Data.List.TakeWhile
import RecordSearch.Json.Printer
import RecordSearch.Json.Token

/-!
# Scanning what was written

A value is written as a text of characters, and it is also a list of tokens. The
scan leads from the one to the other: it finds in the text the tokens of the value,
in either layout, and nothing else.

A word and a number do not say where they end, so what is scanned depends on the
character behind it. The text of a value is therefore looked at together with what
follows, of which it is asked that its first character continues neither a word nor
a number. Whatever the writer puts behind a value is of that kind.

Strings end by themselves. Of them it has to be shown that no escape is read for
something else than it stands for, one character at a time.
-/

namespace RecordSearch.Json

/-! ## Tokens of a value -/

namespace Value

mutual

/-- The tokens of a value. -/
def tokens : Value → List Token
  | .null => [.null]
  | .bool b => [.bool b]
  | .number digits => [.number digits]
  | .text s => [.text (some s)]
  | .unreadable => [.text none]
  | .array [] => [.openArray, .closeArray]
  | .array (v :: rest) => .openArray :: v.tokens ++ itemTokens rest ++ [.closeArray]
  | .object [] => [.openObject, .closeObject]
  | .object ((key, v) :: rest) =>
    .openObject :: .text (some key) :: .colon :: v.tokens ++ memberTokens rest ++ [.closeObject]

/-- The tokens of the items of an array after the first. -/
def itemTokens : List Value → List Token
  | [] => []
  | v :: rest => .comma :: v.tokens ++ itemTokens rest

/-- The tokens of the members of an object after the first. -/
def memberTokens : List (String × Value) → List Token
  | [] => []
  | (key, v) :: rest => .comma :: .text (some key) :: .colon :: v.tokens ++ memberTokens rest

end

/-- Every number in a value is spelled as a number. -/
inductive WellSpelled : Value → Prop
  | null : WellSpelled .null
  | bool (b : Bool) : WellSpelled (.bool b)
  | number {digits : List Char} (h : Token.isNumber digits = true) : WellSpelled (.number digits)
  | text (s : String) : WellSpelled (.text s)
  | unreadable : WellSpelled .unreadable
  | array {items : List Value} (h : ∀ v ∈ items, WellSpelled v) : WellSpelled (.array items)
  | object {members : List (String × Value)} (h : ∀ member ∈ members, WellSpelled member.2) :
    WellSpelled (.object members)

end Value

/-! ## The scan in pieces -/

/-- Whether a word or a number ends before these characters. -/
def EndsBefore (rest : List Char) : Prop :=
  ∀ c ∈ rest.head?, Token.isLetter c = false ∧ Token.continuesNumber c = false

theorem endsBefore_nil : EndsBefore [] := by
  intro c hc
  cases hc

theorem endsBefore_cons {c : Char} {rest : List Char}
    (h : Token.isLetter c = false ∧ Token.continuesNumber c = false) : EndsBefore (c :: rest) := by
  intro d hd
  cases hd
  exact h

/-- A character inside a token. -/
theorem Scan.run?_cons {scan next : Scan} {c : Char} (h : scan.step? c = some (next, []))
    (read : List Token) (rest : List Char) : scan.run? read (c :: rest) = next.run? read rest := by
  rw [run?, h]
  rfl

/-- What was read before stays in front. -/
theorem Scan.run?_eq_map (scan : Scan) (read : List Token) (cs : List Char) :
    scan.run? read cs = (scan.run? [] cs).map (read.reverse ++ ·) := by
  induction cs generalizing scan read with
  | nil => simp [run?]
  | cons c rest ih =>
      rw [run?, run?]
      cases scan.step? c with
      | none => rfl
      | some next =>
          dsimp only
          rw [ih, ih next.1 (next.2.reverse ++ [])]
          simp [Function.comp_def]

namespace Token

variable {rest : List Char}

theorem scan?_cons {c : Char} (tokens : List Token) (h : Scan.begin? c = some (.idle, tokens))
    (rest : List Char) : scan? (c :: rest) = (scan? rest).map (tokens ++ ·) := by
  rw [scan?, Scan.run?, Scan.step?, h]
  dsimp only
  rw [Scan.run?_eq_map, List.append_nil, List.reverse_reverse, scan?]

/-- A token that has no mark at its end, before what does not continue it. -/
theorem run?_of_endsBefore {scan : Scan} {token : Token} (hend : scan.end? = some [token])
    (hstep : ∀ c, isLetter c = false → continuesNumber c = false →
      scan.step? c = Scan.endBefore? (some token) c)
    (h : EndsBefore rest) : scan.run? [] rest = (scan? rest).map (token :: ·) := by
  cases rest with
  | nil =>
      rw [Scan.run?, hend]
      rfl
  | cons c rest =>
      obtain ⟨hletter, hnumber⟩ := h c rfl
      rw [Scan.run?, hstep c hletter hnumber, scan?, Scan.run?, Scan.step?]
      cases hbegin : Scan.begin? c with
      | none => simp [Scan.endBefore?, hbegin]
      | some next =>
          simp only [Scan.endBefore?, hbegin]
          rw [Scan.run?_eq_map, Scan.run?_eq_map next.1 (next.2.reverse ++ [])]
          simp [Function.comp_def]

theorem run?_word (read : List Char) {token : Token} (hword : ofWord? read.reverse = some token)
    (h : EndsBefore rest) : (Scan.word read).run? [] rest = (scan? rest).map (token :: ·) := by
  refine run?_of_endsBefore ?_ ?_ h
  · rw [Scan.end?, hword]
    rfl
  · intro c hletter _
    rw [Scan.step?, hletter, if_neg Bool.false_ne_true, hword]

theorem scan?_null (h : EndsBefore rest) :
    scan? ('n' :: 'u' :: 'l' :: 'l' :: rest) = (scan? rest).map (.null :: ·) :=
  run?_word ['l', 'l', 'u', 'n'] rfl h

theorem scan?_true (h : EndsBefore rest) :
    scan? ('t' :: 'r' :: 'u' :: 'e' :: rest) = (scan? rest).map (.bool true :: ·) :=
  run?_word ['e', 'u', 'r', 't'] rfl h

theorem scan?_false (h : EndsBefore rest) :
    scan? ('f' :: 'a' :: 'l' :: 's' :: 'e' :: rest) = (scan? rest).map (.bool false :: ·) :=
  run?_word ['e', 's', 'l', 'a', 'f'] rfl h

/-! ## Numbers

A number is read to its last character because all that may occur in it continues
it, and it is begun because its first character is a sign or a digit. -/

theorem continuesNumber_of_isDigit {c : Char} (h : isDigit c = true) :
    continuesNumber c = true := by
  simp [continuesNumber, h]

theorem continues_of_isExponent {cs : List Char} (h : isExponent cs = true) :
    ∀ c ∈ cs, continuesNumber c = true := by
  cases cs with
  | nil => simp
  | cons e rest =>
      simp only [isExponent, Bool.and_eq_true, List.all_eq_true] at h
      obtain ⟨⟨hmark, _⟩, hdigits⟩ := h
      have hrest : ∀ c ∈ rest, continuesNumber c = true := by
        intro c hc
        split at hdigits
        · rcases List.mem_cons.1 hc with rfl | hc
          · rfl
          · exact continuesNumber_of_isDigit (hdigits c hc)
        · rcases List.mem_cons.1 hc with rfl | hc
          · rfl
          · exact continuesNumber_of_isDigit (hdigits c hc)
        · exact continuesNumber_of_isDigit (hdigits c hc)
      intro c hc
      rcases List.mem_cons.1 hc with rfl | hc
      · simp only [continuesNumber]
        rcases Bool.or_eq_true_iff.1 hmark with h | h
        · simp [h]
        · simp [h]
      · exact hrest c hc

theorem continues_of_dropWhile {cs : List Char}
    (h : ∀ c ∈ cs.dropWhile isDigit, continuesNumber c = true) :
    ∀ c ∈ cs, continuesNumber c = true := by
  intro c hc
  rw [← List.takeWhile_append_dropWhile (p := isDigit) (l := cs), List.mem_append] at hc
  rcases hc with hc | hc
  · exact continuesNumber_of_isDigit (List.mem_takeWhile_imp hc)
  · exact h c hc

theorem continues_of_isFraction {cs : List Char} (h : isFraction cs = true) :
    ∀ c ∈ cs, continuesNumber c = true := by
  rw [isFraction.eq_def] at h
  split at h
  · next rest =>
      have hrest := continues_of_isExponent (Bool.and_eq_true_iff.1 h).2
      intro c hc
      rcases List.mem_cons.1 hc with rfl | hc
      · rfl
      · exact continues_of_dropWhile hrest c hc
  · exact continues_of_isExponent h

theorem isUnsigned_cons {cs : List Char} (h : isUnsigned cs = true) :
    ∃ c rest, cs = c :: rest ∧ isDigit c = true ∧ ∀ d ∈ rest, continuesNumber d = true := by
  rw [isUnsigned.eq_def] at h
  split at h
  · next rest => exact ⟨'0', rest, rfl, rfl, continues_of_isFraction h⟩
  · next c rest _ =>
      obtain ⟨hdigit, hrest⟩ := Bool.and_eq_true_iff.1 h
      exact ⟨c, rest, rfl, hdigit, continues_of_dropWhile (continues_of_isFraction hrest)⟩
  · cases h

theorem isNumber_cons {cs : List Char} (h : isNumber cs = true) :
    ∃ c rest, cs = c :: rest ∧ (c = '-' ∨ isDigit c = true) ∧
      ∀ d ∈ rest, continuesNumber d = true := by
  rw [isNumber.eq_def] at h
  split at h
  · next rest =>
      obtain ⟨c, digits, rfl, hdigit, hrest⟩ := isUnsigned_cons h
      refine ⟨'-', c :: digits, rfl, .inl rfl, ?_⟩
      intro d hd
      rcases List.mem_cons.1 hd with rfl | hd
      · exact continuesNumber_of_isDigit hdigit
      · exact hrest d hd
  · obtain ⟨c, digits, rfl, hdigit, hrest⟩ := isUnsigned_cons h
    exact ⟨c, digits, rfl, .inr hdigit, hrest⟩

theorem begin?_of_isDigit {c : Char} (h : isDigit c = true) :
    Scan.begin? c = some (.number [c], []) := by
  have hrange : 48 ≤ c.toNat ∧ c.toNat ≤ 57 := by
    simpa [isDigit, Char.le_def, UInt32.le_iff_toNat_le] using h
  have hdigits : ∀ n, n < 58 → 48 ≤ n →
      Scan.begin? (Char.ofNat n) = some (.number [Char.ofNat n], []) := by
    decide
  have hc := hdigits c.toNat (by omega) hrange.1
  rwa [Char.ofNat_toNat] at hc

theorem run?_number (read : List Char) {digits : List Char}
    (hnumber : isNumber (read.reverse ++ digits) = true)
    (hdigits : ∀ d ∈ digits, continuesNumber d = true) (h : EndsBefore rest) :
    (Scan.number read).run? [] (digits ++ rest) =
      (scan? rest).map (.number (read.reverse ++ digits) :: ·) := by
  induction digits generalizing read with
  | nil =>
      rw [List.append_nil] at hnumber
      have htoken : ofNumber? read.reverse = some (.number read.reverse) := by
        rw [ofNumber?, if_pos hnumber]
      rw [List.append_nil, List.nil_append]
      refine run?_of_endsBefore ?_ ?_ h
      · rw [Scan.end?, htoken]
        rfl
      · intro c _ hc
        rw [Scan.step?, hc, if_neg Bool.false_ne_true, htoken]
  | cons d digits ih =>
      have hsplit : read.reverse ++ d :: digits = (d :: read).reverse ++ digits := by simp
      rw [hsplit] at hnumber ⊢
      have hstep : (Scan.number read).step? d = some (.number (d :: read), []) := by
        rw [Scan.step?, hdigits d List.mem_cons_self, if_pos rfl]
      rw [List.cons_append, Scan.run?_cons hstep]
      exact ih (d :: read) hnumber fun e he => hdigits e (List.mem_cons_of_mem d he)

theorem scan?_number {digits : List Char} (hnumber : isNumber digits = true)
    (h : EndsBefore rest) :
    scan? (digits ++ rest) = (scan? rest).map (.number digits :: ·) := by
  obtain ⟨c, digits, rfl, hfirst, hdigits⟩ := isNumber_cons hnumber
  have hbegin : Scan.idle.step? c = some (.number [c], []) := by
    rcases hfirst with rfl | hdigit
    · rfl
    · exact begin?_of_isDigit hdigit
  rw [List.cons_append, scan?, Scan.run?_cons hbegin]
  exact run?_number [c] hnumber hdigits h

/-! ## Strings -/

theorem step?_of_hexDigit (r : Reading) (value : Nat) {c : Char} {d : Nat}
    (h : Text.hexValue c.toNat = some d) :
    (Scan.codeUnit r 0 value).step? c = some (.text (r.addUnit (16 * value + d)), []) ∧
      ∀ missing, (Scan.codeUnit r (missing + 1) value).step? c =
        some (.codeUnit r missing (16 * value + d), []) := by
  constructor
  · simp only [Scan.step?, h]
  · intro missing
    simp only [Scan.step?, h]

theorem hexValue_controlDigit {n : Nat} (h : n < 16) :
    Text.hexValue (controlDigit n).toNat = some n := by
  revert n
  decide

/-- A unit below the surrogates is a character. -/
theorem addUnit_of_lt {r : Reading} {n : Nat} (h : n < 0xD800) :
    r.addUnit n = r.add (Char.ofNat n) := by
  have hhigh : Reading.isHigh n = false := by
    simp [Reading.isHigh]
    omega
  have hlow : Reading.isLow n = false := by
    simp [Reading.isLow]
    omega
  rw [Reading.addUnit, hhigh, if_neg Bool.false_ne_true, hlow, if_neg Bool.false_ne_true]

/-- The spelling of a character is read as the character. -/
theorem run?_escapeChar (r : Reading) (c : Char) (read : List Token) (rest : List Char) :
    (Scan.text r).run? read (escapeChar c ++ rest) = (Scan.text (r.add c)).run? read rest := by
  rw [escapeChar.eq_def]
  split
  · rfl
  · rfl
  · rfl
  · rfl
  · rfl
  · rfl
  · rfl
  · next hquote hbackslash _ _ _ _ _ =>
      split
      · next hcontrol =>
          -- Four hexadecimal digits, of which the first two are zero, make the code point.
          have hhigh := hexValue_controlDigit (n := c.toNat / 16) (by omega)
          have hlow := hexValue_controlDigit (n := c.toNat % 16) (by omega)
          have hunit : 16 * (16 * 0 + c.toNat / 16) + c.toNat % 16 = c.toNat := by omega
          have hescape : (Scan.text r).step? '\\' = some (.escape r, []) := rfl
          have hmark : (Scan.escape r).step? 'u' = some (.codeUnit r 3 0, []) := rfl
          have hzero (missing : Nat) : (Scan.codeUnit r (missing + 1) 0).step? '0' =
              some (.codeUnit r missing 0, []) := rfl
          simp only [List.cons_append, List.nil_append]
          rw [Scan.run?_cons hescape, Scan.run?_cons hmark, Scan.run?_cons (hzero 2),
            Scan.run?_cons (hzero 1), Scan.run?_cons ((step?_of_hexDigit r 0 hhigh).2 0),
            Scan.run?_cons (step?_of_hexDigit r _ hlow).1, hunit, addUnit_of_lt (by omega),
            Char.ofNat_toNat]
      · next hplain =>
          have hstep : (Scan.text r).step? c = some (.text (r.add c), []) := by
            rw [Scan.step?, if_neg hquote, if_neg hbackslash, if_neg hplain]
          rw [List.cons_append, List.nil_append, Scan.run?_cons hstep]

theorem run?_escaped (r : Reading) (cs : List Char) (read : List Token) (rest : List Char) :
    (Scan.text r).run? read (cs.flatMap escapeChar ++ rest) =
      (Scan.text (cs.foldl Reading.add r)).run? read rest := by
  induction cs generalizing r with
  | nil => rfl
  | cons c cs ih => rw [List.flatMap_cons, List.append_assoc, run?_escapeChar, ih, List.foldl_cons]

theorem foldl_add (cs read : List Char) :
    cs.foldl Reading.add ⟨read, none, false⟩ = ⟨cs.reverse ++ read, none, false⟩ := by
  induction cs generalizing read with
  | nil => rfl
  | cons c cs ih => rw [List.foldl_cons, List.reverse_cons, List.append_assoc]; exact ih (c :: read)

theorem scan?_writeText (s : String) (rest : List Char) :
    scan? (writeText s ++ rest) = (scan? rest).map (.text (some s) :: ·) := by
  have hbegin : Scan.idle.step? '"' = some (.text .empty, []) := rfl
  have hend (r : Reading) : (Scan.text r).step? '"' = some (.idle, [.text r.text?]) := rfl
  have htext : Reading.text? ⟨s.toList.reverse ++ [], none, false⟩ = some s := by
    simp [Reading.text?]
  rw [writeText, List.cons_append, List.cons_append, List.append_assoc, scan?,
    Scan.run?_cons hbegin, run?_escaped, Reading.empty, foldl_add, List.singleton_append, Scan.run?,
    hend, htext]
  dsimp only
  rw [Scan.run?_eq_map]
  rfl

end Token

/-! ## A whole value -/

theorem endsBefore_lineBreak (layout : Layout) (depth : Nat) {rest : List Char}
    (h : EndsBefore rest) : EndsBefore (layout.lineBreak depth ++ rest) := by
  cases layout with
  | compact => exact h
  | indented => exact endsBefore_cons (by decide)

theorem scan?_lineBreak (layout : Layout) (depth : Nat) (rest : List Char) :
    Token.scan? (layout.lineBreak depth ++ rest) = Token.scan? rest := by
  have hblanks (n : Nat) : Token.scan? (List.replicate n ' ' ++ rest) = Token.scan? rest := by
    induction n with
    | zero => rfl
    | succ n ih =>
        rw [List.replicate_succ, List.cons_append, Token.scan?_cons [] rfl, ih]
        simp
  cases layout with
  | compact => rfl
  | indented =>
      rw [Layout.lineBreak, List.cons_append, Token.scan?_cons [] rfl, hblanks]
      simp

theorem scan?_keySeparator (layout : Layout) (rest : List Char) :
    Token.scan? (layout.keySeparator ++ rest) = (Token.scan? rest).map (.colon :: ·) := by
  cases layout with
  | compact => exact Token.scan?_cons [.colon] rfl rest
  | indented =>
      rw [Layout.keySeparator, List.cons_append, Token.scan?_cons [.colon] rfl,
        List.cons_append, Token.scan?_cons [] rfl]
      simp

namespace Value

variable {layout : Layout} {rest : List Char}

theorem endsBefore_writeItems (layout : Layout) (depth : Nat) (items : List Value)
    (h : EndsBefore rest) :
    EndsBefore (writeItems layout depth items ++ rest) := by
  cases items with
  | nil => exact h
  | cons v items => exact endsBefore_cons (by decide)

theorem endsBefore_writeMembers (layout : Layout) (depth : Nat)
    (members : List (String × Value)) (h : EndsBefore rest) :
    EndsBefore (writeMembers layout depth members ++ rest) := by
  cases members with
  | nil => exact h
  | cons member members => exact endsBefore_cons (by decide)

theorem scan?_writeItems {items : List Value} (depth : Nat)
    (hitems : ∀ v ∈ items, ∀ (depth : Nat) (rest : List Char), EndsBefore rest →
      Token.scan? (v.write layout depth ++ rest) = (Token.scan? rest).map (v.tokens ++ ·))
    {rest : List Char} (h : EndsBefore rest) :
    Token.scan? (writeItems layout depth items ++ rest) =
      (Token.scan? rest).map (itemTokens items ++ ·) := by
  induction items with
  | nil => simp [writeItems, itemTokens]
  | cons v items ih =>
      have hv := hitems v List.mem_cons_self depth _
        (endsBefore_writeItems layout depth items h)
      have hrest := ih fun w hw => hitems w (List.mem_cons_of_mem v hw)
      simp only [writeItems, List.cons_append, List.append_assoc]
      rw [Token.scan?_cons [.comma] rfl, scan?_lineBreak, hv, hrest]
      simp [itemTokens, Function.comp_def]

theorem scan?_writeMembers {members : List (String × Value)} (depth : Nat)
    (hmembers : ∀ member ∈ members, ∀ (depth : Nat) (rest : List Char), EndsBefore rest →
      Token.scan? (member.2.write layout depth ++ rest) =
        (Token.scan? rest).map (member.2.tokens ++ ·))
    {rest : List Char} (h : EndsBefore rest) :
    Token.scan? (writeMembers layout depth members ++ rest) =
      (Token.scan? rest).map (memberTokens members ++ ·) := by
  induction members with
  | nil => simp [writeMembers, memberTokens]
  | cons member members ih =>
      have hv := hmembers member List.mem_cons_self depth _
        (endsBefore_writeMembers layout depth members h)
      have hrest := ih fun m hm => hmembers m (List.mem_cons_of_mem member hm)
      simp only [writeMembers, List.cons_append, List.append_assoc]
      rw [Token.scan?_cons [.comma] rfl, scan?_lineBreak, Token.scan?_writeText,
        scan?_keySeparator, hv, hrest]
      simp [memberTokens, Function.comp_def]

/-- In what was written of a value, the scan finds its tokens. -/
theorem WellSpelled.scan?_write {v : Value} (h : v.WellSpelled) (layout : Layout) (depth : Nat)
    (rest : List Char) (hrest : EndsBefore rest) :
    Token.scan? (v.write layout depth ++ rest) = (Token.scan? rest).map (v.tokens ++ ·) := by
  induction h generalizing depth rest with
  | null => exact Token.scan?_null hrest
  | bool b =>
      cases b with
      | true => exact Token.scan?_true hrest
      | false => exact Token.scan?_false hrest
  | number hnumber => exact Token.scan?_number hnumber hrest
  | text s => exact Token.scan?_writeText s rest
  | unreadable => exact Scan.run?_eq_map .idle [.text none] rest
  | @array items _ ih =>
      have hclose := Token.scan?_cons (c := ']') [.closeArray] rfl rest
      have hend : EndsBefore (layout.lineBreak depth ++ ']' :: rest) :=
        endsBefore_lineBreak layout depth (endsBefore_cons (by decide))
      cases items with
      | nil =>
          rw [write, List.cons_append, Token.scan?_cons [.openArray] rfl,
            List.singleton_append, hclose]
          simp [tokens, Function.comp_def]
      | cons v items =>
          have hv := ih v List.mem_cons_self (depth + 1) _
            (endsBefore_writeItems layout (depth + 1) items hend)
          have hitems := scan?_writeItems (depth + 1)
            (fun w hw => ih w (List.mem_cons_of_mem v hw)) hend
          simp only [write, List.cons_append, List.append_assoc, List.nil_append]
          rw [Token.scan?_cons [.openArray] rfl, scan?_lineBreak, hv, hitems,
            scan?_lineBreak, hclose]
          simp [tokens, Function.comp_def]
  | @object members _ ih =>
      have hclose := Token.scan?_cons (c := '\x7d') [.closeObject] rfl rest
      have hend : EndsBefore (layout.lineBreak depth ++ '\x7d' :: rest) :=
        endsBefore_lineBreak layout depth (endsBefore_cons (by decide))
      cases members with
      | nil =>
          rw [write, List.cons_append, Token.scan?_cons [.openObject] rfl,
            List.singleton_append, hclose]
          simp [tokens, Function.comp_def]
      | cons member members =>
          have hv := ih member List.mem_cons_self (depth + 1) _
            (endsBefore_writeMembers layout (depth + 1) members hend)
          have hmembers := scan?_writeMembers (depth + 1)
            (fun m hm => ih m (List.mem_cons_of_mem member hm)) hend
          simp only [write, List.cons_append, List.append_assoc, List.nil_append]
          rw [Token.scan?_cons [.openObject] rfl, scan?_lineBreak,
            Token.scan?_writeText, scan?_keySeparator, hv, hmembers, scan?_lineBreak, hclose]
          simp [tokens, Function.comp_def]

end Value

end RecordSearch.Json
