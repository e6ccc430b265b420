import Mathlib.Data.List.Perm.Basic
import RecordSearch.Proofs.Json.Reading

/-!
# Fields that are left out

What a record holds depends on its fields and not on their order. An object with
some of the defaults added to it is therefore read as a record that has the same
fields and these, and a form that asks for every field with its default gets the
same answers from both.

That the keys are fresh matters: a field that is given twice makes the object no
record at all. Keys which no form knows may be repeated, so what is compared are the
members that are known and not all members. A key may also be no text; then neither
object can be read.
-/

namespace RecordSearch.Json

variable {α : Type}

namespace Record

/-! ## Fields in any order -/

theorem lookup_eq_some_iff {r : Record} (h : (r.map (·.1)).Nodup) {field : String} {v : Value} :
    r.lookup field = some v ↔ (field, v) ∈ r := by
  induction r with
  | nil => simp
  | cons entry rest ih =>
      obtain ⟨hfresh, hrest⟩ := List.nodup_cons.1 h
      rw [List.lookup_cons]
      by_cases hfield : field = entry.1
      · subst hfield
        have hnot : (entry.1, v) ∉ rest := fun hmem =>
          hfresh (List.mem_map.2 ⟨(entry.1, v), hmem, rfl⟩)
        simp [hnot, Prod.ext_iff, eq_comm]
      · have hne : (field == entry.1) = false := beq_eq_false_iff_ne.2 hfield
        rw [hne]
        simp [ih hrest, Prod.ext_iff, hfield]

theorem lookup_of_perm {r r' : Record} (hnodup : (r.map (·.1)).Nodup) (h : r'.Perm r)
    (field : String) : r'.lookup field = r.lookup field := by
  have hnodup' : (r'.map (·.1)).Nodup := (h.map _).nodup_iff.2 hnodup
  ext v
  rw [lookup_eq_some_iff hnodup, lookup_eq_some_iff hnodup', h.mem_iff]

/-- A record has the fields of another, and some of the defaults where that has none. -/
def Completes (defaults sparse full : Record) : Prop :=
  ∀ field, full.lookup field = sparse.lookup field ∨
    (sparse.lookup field = none ∧ full.lookup field = defaults.lookup field)

section Completes

variable {defaults sparse full : Record} {f : Value → Option α}

theorem Completes.required (h : Completes defaults sparse full) {field : String}
    (hfield : defaults.lookup field = none) : full.required field f = sparse.required field f := by
  rcases h field with hsame | ⟨hnone, hdefault⟩
  · rw [Record.required, Record.required, hsame]
  · rw [Record.required, Record.required, hdefault, hfield, hnone]

/-- What is missing is read as its default. -/
theorem Completes.defaulted (h : Completes defaults sparse full) {field : String} {v : Value}
    {d : α} (hfield : defaults.lookup field = some v) (hv : f v = some d) :
    full.defaulted field d f = sparse.defaulted field d f := by
  rcases h field with hsame | ⟨hnone, hdefault⟩
  · rw [Record.defaulted, Record.defaulted, hsame]
  · rw [Record.defaulted, Record.defaulted, hdefault, hfield, hnone]
    exact hv

theorem Completes.of_sublist {left : Record} (h : Completes left sparse full)
    (hleft : left.Sublist defaults) (hnodup : (defaults.map (·.1)).Nodup) :
    Completes defaults sparse full := by
  intro field
  rcases h field with hsame | ⟨hnone, hsome⟩
  · exact .inl hsame
  · cases hlookup : left.lookup field with
    | none => exact .inl (by rw [hsome, hlookup, hnone])
    | some v =>
        have hmem := (lookup_eq_some_iff (hnodup.sublist (hleft.map _))).1 hlookup
        have hdefault := (lookup_eq_some_iff hnodup).2 (hleft.subset hmem)
        exact .inr ⟨hnone, by rw [hsome, hlookup, hdefault]⟩

end Completes

/-! ## Fields that are added -/

section Added

variable {left rest full : Record}

theorem keys_nodup_append_iff (hnodup : (left.map (·.1)).Nodup)
    (hfresh : ∀ entry ∈ left, ∀ member ∈ rest, member.1 ≠ entry.1) :
    ((left ++ rest).map (·.1)).Nodup ↔ (rest.map (·.1)).Nodup := by
  rw [List.map_append, List.nodup_append]
  constructor
  · rintro ⟨_, hrest, _⟩
    exact hrest
  · intro hrest
    refine ⟨hnodup, hrest, ?_⟩
    intro key hkey other hother
    obtain ⟨entry, hentry, rfl⟩ := List.mem_map.1 hkey
    obtain ⟨member, hmember, rfl⟩ := List.mem_map.1 hother
    exact (hfresh entry hentry member hmember).symm

theorem completes_of_perm (hnodup : (left.map (·.1)).Nodup) (hrest : (rest.map (·.1)).Nodup)
    (hfresh : ∀ entry ∈ left, ∀ member ∈ rest, member.1 ≠ entry.1)
    (hperm : full.Perm (left ++ rest)) : Completes left rest full := by
  intro field
  rw [lookup_of_perm ((keys_nodup_append_iff hnodup hfresh).2 hrest) hperm, List.lookup_append]
  cases hlookup : left.lookup field with
  | none => exact .inl (Option.none_or ..)
  | some v =>
      have hmem := (lookup_eq_some_iff hnodup).1 hlookup
      refine .inr ⟨?_, Option.some_or ..⟩
      rw [List.lookup_eq_none_iff]
      exact fun member hmember => bne_iff_ne.2 (hfresh _ hmem member hmember).symm

end Added

/-- The members of an object that a record with the given fields knows. -/
def known (fields : List String) (members : List (String × Value)) : Record :=
  members.filter fun member => fields.contains member.1

theorem known_perm {fields : List String} {left sparse full : Record}
    (hfields : ∀ entry ∈ left, entry.1 ∈ fields) (hperm : full.Perm (left ++ sparse)) :
    (known fields full).Perm (left ++ known fields sparse) := by
  have hleft : known fields left = left := by
    rw [known, List.filter_eq_self]
    intro entry hentry
    simpa using hfields entry hentry
  have hfilter := hperm.filter fun member => fields.contains member.1
  rw [List.filter_append] at hfilter
  rwa [← known, ← known, ← known, hleft] at hfilter

theorem ofValue?_object (fields : List String) (members : List (String × Value)) :
    ofValue? fields (.object members) =
      if ((known fields members).map (·.1)).Nodup then some (known fields members) else none := rfl

/-- Members that are added to an object complete the record that is read from it, and
where one of the two spells no record, neither does the other. -/
theorem ofValue?_completes {fields : List String} {left sparse full : Record}
    (hnodup : (left.map (·.1)).Nodup) (hfields : ∀ entry ∈ left, entry.1 ∈ fields)
    (hfresh : ∀ entry ∈ left, ∀ member ∈ sparse, member.1 ≠ entry.1)
    (hperm : full.Perm (left ++ sparse)) :
    (ofValue? fields (.object sparse) = none ∧ ofValue? fields (.object full) = none) ∨
    ∃ r r', ofValue? fields (.object sparse) = some r ∧ ofValue? fields (.object full) = some r' ∧
      Completes left r r' := by
  have hknown := known_perm hfields hperm
  have hfresh' : ∀ entry ∈ left, ∀ member ∈ known fields sparse, member.1 ≠ entry.1 :=
    fun entry hentry member hmember => hfresh entry hentry member (List.mem_filter.1 hmember).1
  have hsame : ((known fields full).map (·.1)).Nodup ↔ ((known fields sparse).map (·.1)).Nodup :=
    (hknown.map _).nodup_iff.trans (keys_nodup_append_iff hnodup hfresh')
  rw [ofValue?_object, ofValue?_object]
  by_cases hsparse : ((known fields sparse).map (·.1)).Nodup
  · exact .inr ⟨_, _, if_pos hsparse, if_pos (hsame.2 hsparse),
      completes_of_perm hnodup hsparse hfresh' hknown⟩
  · exact .inl ⟨if_neg hsparse, if_neg fun h => hsparse (hsame.1 h)⟩

end Record

/-! ## Objects as the reader gathers them -/

/-- The members `full` are the members `sparse`, in any order, together with some of the
defaults, written for keys that `sparse` leaves out. -/
def LeavesOut (defaults : List (String × Value)) (sparse full : List (Option String × Value)) :
    Prop :=
  ∃ left : List (String × Value), left.Sublist defaults ∧
    (∀ entry ∈ left, ∀ member ∈ sparse, member.1 ≠ some entry.1) ∧
    full.Perm (left.map Value.keyed ++ sparse)

namespace Value

theorem keyed_injective : Function.Injective keyed := by
  intro member other h
  obtain ⟨hkey, hvalue⟩ := Prod.mk.inj h
  exact Prod.ext (Option.some.inj hkey) hvalue

/-- The keys of an object are texts, or it cannot be read. -/
theorem ofMembers_cases (members : List (Option String × Value)) :
    (∃ ms, members = List.map keyed ms) ∨
      (none ∈ members.map (·.1) ∧ ofMembers members = .unreadable) := by
  have hcases : (∃ ms, members = List.map keyed ms) ∨ (none ∈ members.map (·.1) ∧
      members.mapM (fun member => member.1.map (·, member.2)) = none) := by
    induction members with
    | nil => exact .inl ⟨[], rfl⟩
    | cons member rest ih =>
        obtain ⟨key, v⟩ := member
        cases key with
        | none => exact .inr ⟨List.mem_cons_self, by simp [List.mapM_cons]⟩
        | some key =>
            rcases ih with ⟨ms, rfl⟩ | ⟨hnone, hmap⟩
            · exact .inl ⟨(key, v) :: ms, rfl⟩
            · exact .inr ⟨List.mem_cons_of_mem _ hnone, by simp [List.mapM_cons, hmap]⟩
  rcases hcases with hkeyed | ⟨hnone, hmap⟩
  · exact .inl hkeyed
  · exact .inr ⟨hnone, by rw [ofMembers, hmap]⟩

/-- Of two objects either both can be read or neither, if both have a key that is no text or
neither has. -/
theorem ofMembers_cases_of_iff {members members' : List (Option String × Value)}
    (h : none ∈ members.map (·.1) ↔ none ∈ members'.map (·.1)) :
    (∃ ms ms', members = List.map keyed ms ∧ members' = List.map keyed ms') ∨
      (ofMembers members = .unreadable ∧ ofMembers members' = .unreadable) := by
  have hkeyed (ms : List (String × Value)) : none ∉ (List.map keyed ms).map (·.1) := by
    simp [keyed]
  rcases ofMembers_cases members with ⟨ms, rfl⟩ | ⟨hnone, hms⟩
  · rcases ofMembers_cases members' with ⟨ms', rfl⟩ | ⟨hnone, _⟩
    · exact .inl ⟨ms, ms', rfl, rfl⟩
    · exact absurd (h.2 hnone) (hkeyed ms)
  · rcases ofMembers_cases members' with ⟨ms', rfl⟩ | ⟨_, hms'⟩
    · exact absurd (h.1 hnone) (hkeyed ms')
    · exact .inr ⟨hms, hms'⟩

end Value

/-- Either both objects can be read or neither. -/
theorem LeavesOut.cases {defaults : List (String × Value)}
    {sparse full : List (Option String × Value)} (h : LeavesOut defaults sparse full) :
    (Value.ofMembers sparse = .unreadable ∧ Value.ofMembers full = .unreadable) ∨
    ∃ left ms ms' : List (String × Value), left.Sublist defaults ∧
      (∀ entry ∈ left, ∀ member ∈ ms, member.1 ≠ entry.1) ∧ ms'.Perm (left ++ ms) ∧
      Value.ofMembers sparse = .object ms ∧ Value.ofMembers full = .object ms' := by
  obtain ⟨left, hleft, hfresh, hperm⟩ := h
  have hkeys : none ∈ sparse.map (·.1) ↔ none ∈ full.map (·.1) := by
    simp [(hperm.map _).mem_iff, Value.keyed]
  rcases Value.ofMembers_cases_of_iff hkeys with ⟨ms, ms', rfl, rfl⟩ | hunreadable
  · rw [← List.map_append, List.map_perm_map_iff Value.keyed_injective] at hperm
    refine .inr ⟨left, ms, ms', hleft, ?_, hperm, Value.ofMembers_keyed ms,
      Value.ofMembers_keyed ms'⟩
    intro entry hentry member hmember heq
    refine hfresh entry hentry _ (List.mem_map_of_mem hmember) ?_
    rw [Value.keyed, heq]
  · exact .inl hunreadable

/-- A form that reads missing fields as their defaults reads an object alike whether they
are written in it or left out. -/
theorem LeavesOut.bind_ofValue? {defaults : List (String × Value)} {fields : List String}
    {sparse full : List (Option String × Value)} (h : LeavesOut defaults sparse full)
    (hnodup : (defaults.map (·.1)).Nodup) (hfields : ∀ entry ∈ defaults, entry.1 ∈ fields)
    {form : Record → Option α}
    (hform : ∀ r r', Record.Completes defaults r r' → form r' = form r) :
    (Record.ofValue? fields (.ofMembers full)).bind form =
      (Record.ofValue? fields (.ofMembers sparse)).bind form := by
  rcases h.cases with ⟨hms, hms'⟩ | ⟨left, ms, ms', hleft, hfresh, hperm, hms, hms'⟩
  · rw [hms, hms']
  · have hfields' : ∀ entry ∈ left, entry.1 ∈ fields :=
      fun entry hentry => hfields entry (hleft.subset hentry)
    rw [hms, hms']
    rcases Record.ofValue?_completes (hnodup.sublist (hleft.map _)) hfields' hfresh hperm with
      ⟨hsparse, hfull⟩ | ⟨r, r', hsparse, hfull, hcompletes⟩
    · rw [hsparse, hfull]
    · rw [hsparse, hfull, Option.bind_some, Option.bind_some]
      exact hform r r' (hcompletes.of_sublist hleft hnodup)

/-! ## Values that read alike

A record that has records in its fields is read alike if these are. -/

/-- Members with the same keys in the same order, whose values are alike for their keys. -/
def MembersAlike (alike : String → Value → Value → Prop) :
    List (Option String × Value) → List (Option String × Value) → Prop :=
  List.Forall₂ fun m m' => m.1 = m'.1 ∧ ∀ key, m.1 = some key → alike key m.2 m'.2

namespace Record

variable {alike : String → Value → Value → Prop} {r r' : Record}

/-- The same fields in the same order, with alike values. -/
def Alike (alike : String → Value → Value → Prop) : Record → Record → Prop :=
  List.Forall₂ fun m m' => m.1 = m'.1 ∧ alike m.1 m.2 m'.2

theorem Alike.known (h : Alike alike r r') (fields : List String) :
    Alike alike (known fields r) (known fields r') := by
  induction h with
  | nil => exact .nil
  | cons hm _ ih =>
      rw [Record.known, Record.known, List.filter_cons, List.filter_cons, ← hm.1]
      split
      · exact .cons hm ih
      · exact ih

theorem Alike.keys (h : Alike alike r r') : r.map (·.1) = r'.map (·.1) := by
  induction h with
  | nil => rfl
  | cons hm _ ih => rw [List.map_cons, List.map_cons, hm.1, ih]

theorem Alike.lookup (h : Alike alike r r') (field : String) :
    Option.Rel (alike field) (r.lookup field) (r'.lookup field) := by
  induction h with
  | nil => exact .none
  | @cons m m' rest rest' hm _ ih =>
      rw [List.lookup_cons, List.lookup_cons, ← hm.1]
      cases hkey : field == m.1 with
      | true =>
          obtain rfl := beq_iff_eq.1 hkey
          exact .some hm.2
      | false => exact ih

theorem Alike.required (h : Alike alike r r') {field : String} {f : Value → Option α}
    (hf : ∀ v v', alike field v v' → f v = f v') : r.required field f = r'.required field f := by
  have hfield := h.lookup field
  rw [Record.required, Record.required]
  generalize r.lookup field = o, r'.lookup field = o' at hfield ⊢
  cases hfield with
  | none => rfl
  | some hv => exact hf _ _ hv

theorem Alike.defaulted (h : Alike alike r r') {field : String} {d : α} {f : Value → Option α}
    (hf : ∀ v v', alike field v v' → f v = f v') :
    r.defaulted field d f = r'.defaulted field d f := by
  have hfield := h.lookup field
  rw [Record.defaulted, Record.defaulted]
  generalize r.lookup field = o, r'.lookup field = o' at hfield ⊢
  cases hfield with
  | none => rfl
  | some hv => exact hf _ _ hv

theorem Alike.ofValue? (h : Alike alike r r') (fields : List String) :
    Option.Rel (Alike alike) (ofValue? fields (.object r)) (ofValue? fields (.object r')) := by
  rw [ofValue?_object, ofValue?_object, (h.known fields).keys]
  split
  · exact .some (h.known fields)
  · exact .none

end Record

theorem MembersAlike.ofValue? {alike : String → Value → Value → Prop}
    {ms ms' : List (Option String × Value)} (h : MembersAlike alike ms ms') (fields : List String) :
    Option.Rel (Record.Alike alike) (Record.ofValue? fields (.ofMembers ms))
      (Record.ofValue? fields (.ofMembers ms')) := by
  have hkeys : ms.map (·.1) = ms'.map (·.1) := by
    rw [← List.forall₂_eq_eq_eq, List.forall₂_map_left_iff, List.forall₂_map_right_iff]
    exact h.imp fun _ _ hm => hm.1
  have hnone : none ∈ ms.map (·.1) ↔ none ∈ ms'.map (·.1) := by rw [hkeys]
  rcases Value.ofMembers_cases_of_iff hnone with ⟨r, r', rfl, rfl⟩ | ⟨hms, hms'⟩
  · have halike : Record.Alike alike r r' := by
      rw [MembersAlike, List.forall₂_map_left_iff, List.forall₂_map_right_iff] at h
      exact h.imp fun _ _ hm => ⟨Option.some.inj hm.1, hm.2 _ rfl⟩
    rw [Value.ofMembers_keyed, Value.ofMembers_keyed]
    exact halike.ofValue? fields
  · rw [hms, hms']
    exact .none

theorem MembersAlike.bind_ofValue? {alike : String → Value → Value → Prop}
    {ms ms' : List (Option String × Value)} {fields : List String} (h : MembersAlike alike ms ms')
    {form : Record → Option α} (hform : ∀ r r', Record.Alike alike r r' → form r = form r') :
    (Record.ofValue? fields (.ofMembers ms)).bind form =
      (Record.ofValue? fields (.ofMembers ms')).bind form := by
  have hrecords := h.ofValue? fields
  generalize Record.ofValue? fields (.ofMembers ms) = o,
    Record.ofValue? fields (.ofMembers ms') = o' at hrecords ⊢
  cases hrecords with
  | none => rfl
  | some hr => exact hform _ _ hr

end RecordSearch.Json
