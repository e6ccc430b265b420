import Mathlib.Data.List.Infix
import RecordSearch.Fixture

/-!
# The first distinct names

The names that a fixture suggests are gathered in one pass over its records. The
pass ends early when there are enough names, takes a name only if it contains the
term, and leaves out what it has already. What it should give says nothing of a
pass: of all names on record, each once and by where it comes first, those that
contain the term, and of these the first ten.

The two meet in the names found so far: after some of the records they are what
these records alone would suggest. One more record adds its name or changes
nothing, and once there are enough no record changes anything.
-/

namespace RecordSearch

namespace Text

theorem occursIn_iff_infix (needle hay : List Char) :
    occursIn needle hay = true ↔ needle <:+: hay := by
  induction hay with
  | nil => rw [occursIn, List.isEmpty_iff, List.infix_nil]
  | cons c rest ih =>
      rw [occursIn, Bool.or_eq_true, List.isPrefixOf_iff_prefix, ih, List.infix_cons_iff]

/-- The lower case of a text contains that of a term. -/
def Contains (text term : String) : Prop :=
  lowerChars term.toList <:+: lowerChars text.toList

theorem containsIgnoringCase_iff (text term : String) :
    containsIgnoringCase text term = true ↔ Contains text term :=
  occursIn_iff_infix _ _

instance (text term : String) : Decidable (Contains text term) :=
  decidable_of_iff _ (containsIgnoringCase_iff text term)

end Text

/-! ## Names by where they come first -/

theorem eraseDups_concat (names : List String) (name : String) :
    (names ++ [name]).eraseDups =
      if name ∈ names then names.eraseDups else names.eraseDups ++ [name] := by
  have hone : [name].eraseDups = [name] := by rw [List.eraseDups_cons]; rfl
  rw [List.eraseDups_append, List.removeAll]
  split
  · next h => simp [h]
  · next h => simp [h, hone]

theorem pairwise_eraseDups (names : List String) :
    names.eraseDups.Pairwise (names.idxOf · < names.idxOf ·) := by
  induction names using List.reverseRecOn with
  | nil => exact List.Pairwise.nil
  | append_singleton names name ih =>
      have hplace : ∀ other ∈ names, (names ++ [name]).idxOf other = names.idxOf other :=
        fun other h => List.idxOf_append_of_mem h
      have hbefore : names.eraseDups.Pairwise
          ((names ++ [name]).idxOf · < (names ++ [name]).idxOf ·) := by
        refine ih.imp_of_mem ?_
        intro a b ha hb hlt
        rw [hplace a (List.mem_eraseDups.1 ha), hplace b (List.mem_eraseDups.1 hb)]
        exact hlt
      rw [eraseDups_concat]
      split
      · exact hbefore
      · next hnew =>
          refine List.pairwise_append.2 ⟨hbefore, List.pairwise_singleton _ _, ?_⟩
          intro a ha b hb
          have ha := List.mem_eraseDups.1 ha
          obtain rfl := List.mem_singleton.1 hb
          rw [hplace a ha, List.idxOf_append_of_notMem hnew]
          have := List.idxOf_lt_length_iff.2 ha
          omega

namespace Fixture

/-! ## The pass -/

/-- The names of the records. -/
def names (records : List Credential) : List String :=
  records.map (·.name)

/-- What some records suggest for a term. -/
def firstNames (term : String) (records : List Credential) : List String :=
  ((names records).eraseDups.filter (Text.Contains · term)).take suggestionLimit

/-- Once there are enough names, no further record changes anything. -/
theorem firstNames_append_of_full {term : String} {records : List Credential}
    (hfull : suggestionLimit ≤ (firstNames term records).length) (rest : List Credential) :
    firstNames term (records ++ rest) = firstNames term records := by
  rw [firstNames, List.length_take] at hfull
  rw [firstNames, names, List.map_append, List.eraseDups_append, List.filter_append]
  exact List.take_append_of_le_length (by rw [names] at hfull; omega)

/-- Short of enough, the names found so far are all there are. -/
theorem firstNames_of_short {term : String} {records : List Credential}
    (hshort : (firstNames term records).length < suggestionLimit) :
    firstNames term records = (names records).eraseDups.filter (Text.Contains · term) := by
  rw [firstNames, List.length_take] at hshort
  exact List.take_of_length_le (by omega)

theorem firstNames_concat {term : String} {records : List Credential}
    (hshort : (firstNames term records).length < suggestionLimit) (record : Credential) :
    firstNames term (records ++ [record]) =
      if Text.Contains record.name term ∧ record.name ∉ firstNames term records then
        firstNames term records ++ [record.name]
      else firstNames term records := by
  have hall := firstNames_of_short hshort
  have hmem : record.name ∈ firstNames term records ↔
      record.name ∈ names records ∧ Text.Contains record.name term := by
    rw [hall, List.mem_filter, List.mem_eraseDups, decide_eq_true_iff]
  have hnames : names (records ++ [record]) = names records ++ [record.name] := by simp [names]
  have hkept : ∀ l : List String, Text.Contains record.name term →
      (l ++ [record.name]).filter (Text.Contains · term) =
        l.filter (Text.Contains · term) ++ [record.name] := by
    intro l h
    simp [List.filter_append, h]
  rw [firstNames, hnames, eraseDups_concat]
  by_cases hcontains : Text.Contains record.name term
  · by_cases hknown : record.name ∈ names records
    · rw [if_pos hknown, if_neg (fun h => h.2 (hmem.2 ⟨hknown, hcontains⟩)), firstNames]
    · rw [if_neg hknown, if_pos ⟨hcontains, fun h => hknown (hmem.1 h).1⟩, hkept _ hcontains,
        ← hall]
      refine List.take_of_length_le ?_
      rw [List.length_append, List.length_singleton]
      omega
  · have hdropped : ((names records).eraseDups ++ [record.name]).filter (Text.Contains · term) =
        (names records).eraseDups.filter (Text.Contains · term) := by
      simp [List.filter_append, hcontains]
    rw [if_neg (c := _ ∧ _) (fun h => hcontains h.1), apply_ite (List.filter _), hdropped, ite_self,
      firstNames]

/-- The names found so far are what the records so far suggest. -/
theorem collectNames_firstNames (term : String) (records rest : List Credential) :
    collectNames term (firstNames term records) rest = firstNames term (records ++ rest) := by
  induction rest generalizing records with
  | nil => rw [collectNames, List.append_nil]
  | cons record rest ih =>
      rw [collectNames]
      split
      · next hfull => rw [firstNames_append_of_full hfull]
      · next hshort =>
          have hconcat := firstNames_concat (Nat.lt_of_not_le hshort) record
          have hnext := ih (records ++ [record])
          rw [List.append_assoc, List.singleton_append, hconcat] at hnext
          rw [← hnext]
          have hcase : (Text.containsIgnoringCase record.name term &&
              !(firstNames term records).contains record.name) = true ↔
              Text.Contains record.name term ∧ record.name ∉ firstNames term records := by
            rw [Bool.and_eq_true, Text.containsIgnoringCase_iff]
            simp
          by_cases h : Text.Contains record.name term ∧ record.name ∉ firstNames term records
          · rw [if_pos h, if_pos (hcase.2 h)]
          · rw [if_neg h, if_neg (fun hc => h (hcase.1 hc))]

theorem suggest_eq_firstNames (data : Fixture) (term : String) :
    data.suggest term = firstNames term data.records :=
  collectNames_firstNames term [] data.records

/-! ## What is suggested -/

/-- A list has the first of the distinct names with a property, by where they come
first, up to a number of them. -/
structure FirstDistinct (names : List String) (wanted : String → Prop) (limit : Nat)
    (list : List String) : Prop where
  sound : ∀ name ∈ list, name ∈ names ∧ wanted name
  nodup : list.Nodup
  ordered : list.Pairwise (names.idxOf · < names.idxOf ·)
  length_le : list.length ≤ limit
  /-- A name is left out only for want of room, after all those in the list. -/
  leaves : ∀ name ∈ names, wanted name → name ∉ list →
    list.length = limit ∧ ∀ listed ∈ list, names.idxOf listed < names.idxOf name

theorem firstDistinct_take (names : List String) (wanted : String → Prop)
    [DecidablePred wanted] (limit : Nat) :
    FirstDistinct names wanted limit ((names.eraseDups.filter (wanted ·)).take limit) := by
  have hordered : (names.eraseDups.filter (wanted ·)).Pairwise
      (names.idxOf · < names.idxOf ·) := (pairwise_eraseDups names).sublist List.filter_sublist
  have hmem : ∀ name, name ∈ names.eraseDups.filter (wanted ·) ↔ name ∈ names ∧ wanted name := by
    intro name
    rw [List.mem_filter, List.mem_eraseDups, decide_eq_true_iff]
  have htaken := hordered.sublist (List.take_sublist limit _)
  refine ⟨fun name h => (hmem name).1 (List.mem_of_mem_take h), ?_, htaken,
    List.length_take_le _ _, ?_⟩
  · refine htaken.imp ?_
    intro a b hlt heq
    rw [heq] at hlt
    omega
  · intro name hname hwanted hout
    -- The name is behind the place where the list was cut.
    have hbehind : name ∈ (names.eraseDups.filter (wanted ·)).drop limit := by
      have hall := (hmem name).2 ⟨hname, hwanted⟩
      rw [← List.take_append_drop limit (names.eraseDups.filter _), List.mem_append] at hall
      exact hall.resolve_left hout
    constructor
    · have hlength := List.length_pos_of_mem hbehind
      rw [List.length_drop] at hlength
      rw [List.length_take]
      omega
    · intro listed hlisted
      rw [← List.take_append_drop limit (names.eraseDups.filter _)] at hordered
      exact (List.pairwise_append.1 hordered).2.2 listed hlisted name hbehind

/-- A fixture suggests the first ten of the distinct names on record that contain the
term. -/
theorem suggest_firstDistinct (data : Fixture) (term : String) :
    data.suggest term =
        ((names data.records).eraseDups.filter (Text.Contains · term)).take 10 ∧
      FirstDistinct (names data.records) (Text.Contains · term) 10 (data.suggest term) := by
  rw [suggest_eq_firstNames]
  exact ⟨rfl, firstDistinct_take _ _ _⟩

/-- The same name on two records is suggested once, and another spelling apart. -/
example :
    suggest ⟨[], [⟨1, "Straße", 4, 1, "Place", false⟩, ⟨2, "ΟΔΟΣ", 4, 1, "Place", true⟩,
      ⟨3, "Οδος", 4, 2, "Place", false⟩, ⟨4, "ΟΔΟΣ", 5, 1, "Place", false⟩], .empty⟩ "δος" =
      ["ΟΔΟΣ", "Οδος"] := by
  decide +kernel

end Fixture

end RecordSearch
