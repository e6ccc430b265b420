import RecordSearch.AddressBar

/-!
# Reading parameters after a change

What a key reads after it was written, removed, or mentioned in a patch. For a
patch whose keys are distinct the order of its entries makes no difference to
what is read: each entry decides for its own key, and a key without an entry
reads as before. The patches that the filters make are of this kind.

A key that reads the same may still stand elsewhere or more often. So the same
is said once more of the pairs themselves: a patch leaves the pairs of other
keys where they are, leaves one pair or none of each of its own, and does
nothing the second time.
-/

namespace RecordSearch.Parameters

theorem find?_without (key k : String) (pairs : List (String × String)) :
    (without key pairs).find? (·.1 = k) =
      if k = key then none else pairs.find? (·.1 = k) := by
  rw [without, List.find?_filter]
  split
  · next hk =>
      subst hk
      simp
  · next hk =>
      congr 1
      funext pair
      by_cases hp : pair.1 = k
      · simp [hp, hk]
      · simp [hp]

theorem find?_setPairs (key k value : String) (pairs : List (String × String)) :
    (setPairs key value pairs).find? (·.1 = k) =
      if k = key then some (key, value) else pairs.find? (·.1 = k) := by
  induction pairs with
  | nil =>
      rw [setPairs, List.find?_singleton]
      by_cases hk : k = key
      · simp [hk]
      · simp [hk, Ne.symm hk]
  | cons pair rest ih =>
      rw [setPairs]
      split
      · next hp =>
          rw [List.find?_cons, find?_without, List.find?_cons]
          by_cases hk : k = key
          · simp [hk]
          · simp [hk, Ne.symm hk, hp]
      · next hp =>
          rw [List.find?_cons, ih, List.find?_cons]
          by_cases hk : k = key
          · simp [hk, hp]
          · simp [hk]

@[simp] theorem get?_empty (k : String) : empty.get? k = none := rfl

theorem get?_set (p : Parameters) (key value k : String) :
    (p.set key value).get? k = if k = key then some value else p.get? k := by
  rw [get?, set, find?_setPairs]
  split
  · rfl
  · rfl

theorem get?_erase (p : Parameters) (key k : String) :
    (p.erase key).get? k = if k = key then none else p.get? k := by
  rw [get?, erase, find?_without]
  split
  · rfl
  · rfl

theorem get?_patchEntry (p : Parameters) (entry : String × Option String) (k : String) :
    (p.patchEntry entry).get? k = if k = entry.1 then entry.2 else p.get? k := by
  rw [patchEntry]
  split
  · next value heq => rw [get?_set, heq]
  · next heq => rw [get?_erase, heq]

theorem patch_cons (p : Parameters) (entry : String × Option String) (rest : Patch) :
    p.patch (entry :: rest) = (p.patchEntry entry).patch rest := rfl

theorem get?_patch_of_not_mem {patch : Patch} {k : String} (h : k ∉ patch.map (·.1))
    (p : Parameters) : (p.patch patch).get? k = p.get? k := by
  induction patch generalizing p with
  | nil => rfl
  | cons entry rest ih =>
      rw [List.map_cons, List.mem_cons, not_or] at h
      rw [patch_cons, ih h.2, get?_patchEntry, if_neg h.1]

theorem get?_patch_of_mem {patch : Patch} {k : String} {v : Option String}
    (hnodup : (patch.map (·.1)).Nodup) (h : (k, v) ∈ patch) (p : Parameters) :
    (p.patch patch).get? k = v := by
  induction patch generalizing p with
  | nil => cases h
  | cons entry rest ih =>
      rw [List.map_cons, List.nodup_cons] at hnodup
      rw [patch_cons]
      rcases List.mem_cons.1 h with rfl | h
      · rw [get?_patch_of_not_mem hnodup.1, get?_patchEntry, if_pos rfl]
      · exact ih hnodup.2 h _

/-! ## Parameters written from nothing -/

/-- Writing pairs one after another is the patch that writes each of them. -/
theorem ofList_eq_patch (pairs : List (String × String)) :
    ofList pairs = empty.patch (pairs.map fun pair => (pair.1, some pair.2)) := by
  rw [ofList, patch, List.foldl_map]
  rfl

theorem get?_ofList_of_mem {pairs : List (String × String)} {k v : String}
    (hnodup : (pairs.map (·.1)).Nodup) (h : (k, v) ∈ pairs) :
    (ofList pairs).get? k = some v := by
  rw [ofList_eq_patch]
  refine get?_patch_of_mem ?_ (List.mem_map.2 ⟨(k, v), h, rfl⟩) empty
  rw [List.map_map]
  exact hnodup

theorem get?_ofList_of_not_mem {pairs : List (String × String)} {k : String}
    (h : k ∉ pairs.map (·.1)) : (ofList pairs).get? k = none := by
  rw [ofList_eq_patch, get?_patch_of_not_mem, get?_empty]
  rw [List.map_map]
  exact h

theorem setPairs_of_not_mem {key : String} {pairs : List (String × String)}
    (h : key ∉ pairs.map (·.1)) (value : String) :
    setPairs key value pairs = pairs ++ [(key, value)] := by
  induction pairs with
  | nil => rfl
  | cons pair rest ih =>
      simp only [List.map_cons, List.mem_cons, not_or] at h
      rw [setPairs, if_neg (Ne.symm h.1), ih h.2, List.cons_append]

theorem foldl_set_pairs {before pairs : List (String × String)}
    (h : ((before ++ pairs).map (·.1)).Nodup) :
    (pairs.foldl (fun p pair => p.set pair.1 pair.2) ⟨before⟩ : Parameters).pairs =
      before ++ pairs := by
  induction pairs generalizing before with
  | nil => rw [List.foldl_nil, List.append_nil]
  | cons pair rest ih =>
      have hfresh : pair.1 ∉ before.map (·.1) := by
        simp only [List.map_append, List.map_cons, List.nodup_append] at h
        intro hmem
        exact h.2.2 pair.1 hmem pair.1 List.mem_cons_self rfl
      have hstep : before ++ pair :: rest = before ++ [pair] ++ rest := by simp
      rw [hstep] at h ⊢
      rw [List.foldl_cons, set, setPairs_of_not_mem hfresh]
      exact ih h

/-- Pairs with distinct keys are kept as they are. -/
theorem ofList_pairs {pairs : List (String × String)} (hnodup : (pairs.map (·.1)).Nodup) :
    (ofList pairs).pairs = pairs :=
  @foldl_set_pairs [] pairs hnodup

/-! ## The pairs of other keys -/

theorem filter_without (other : String → Bool) {key : String} (h : other key = false)
    (pairs : List (String × String)) :
    (without key pairs).filter (fun pair => other pair.1) =
      pairs.filter fun pair => other pair.1 := by
  rw [without, List.filter_filter]
  refine List.filter_congr fun pair _ => ?_
  by_cases hp : pair.1 = key
  · simp [hp, h]
  · simp [hp]

theorem filter_setPairs (other : String → Bool) {key : String} (h : other key = false)
    (value : String) (pairs : List (String × String)) :
    (setPairs key value pairs).filter (fun pair => other pair.1) =
      pairs.filter fun pair => other pair.1 := by
  induction pairs with
  | nil => simp [setPairs, h]
  | cons pair rest ih =>
      rw [setPairs]
      split
      · next hp => simp [hp, h, filter_without other h]
      · simp [List.filter_cons, ih]

theorem filter_patchEntry (other : String → Bool) {entry : String × Option String}
    (h : other entry.1 = false) (p : Parameters) :
    (p.patchEntry entry).pairs.filter (fun pair => other pair.1) =
      p.pairs.filter fun pair => other pair.1 := by
  rw [patchEntry]
  split
  · next value _ => exact filter_setPairs other h value p.pairs
  · exact filter_without other h p.pairs

/-- A patch leaves the pairs of the keys that it does not mention, in their order. -/
theorem filter_patch (other : String → Bool) {patch : Patch}
    (h : ∀ key ∈ patch.map (·.1), other key = false) (p : Parameters) :
    (p.patch patch).pairs.filter (fun pair => other pair.1) =
      p.pairs.filter fun pair => other pair.1 := by
  induction patch generalizing p with
  | nil => rfl
  | cons entry rest ih =>
      rw [List.map_cons, List.forall_mem_cons] at h
      rw [patch_cons, ih h.2, filter_patchEntry other h.1]

/-! ## The pairs of one key -/

/-- All pairs of a key, in their order. -/
def occurrences (p : Parameters) (key : String) : List (String × String) :=
  p.pairs.filter (·.1 = key)

theorem occurrences_eq_nil_iff {p : Parameters} {key : String} :
    p.occurrences key = [] ↔ key ∉ p.keys := by
  rw [occurrences, List.filter_eq_nil_iff, keys, List.mem_map]
  constructor
  · rintro h ⟨pair, hpair, hkey⟩
    exact h pair hpair (by simpa using hkey)
  · intro h pair hpair hkey
    exact h ⟨pair, hpair, by simpa using hkey⟩

theorem filter_setPairs_self (key value : String) (pairs : List (String × String)) :
    (setPairs key value pairs).filter (·.1 = key) = [(key, value)] := by
  induction pairs with
  | nil => simp [setPairs]
  | cons pair rest ih =>
      rw [setPairs]
      split
      · simp [without, List.filter_filter]
      · next hp => simp [hp, ih]

theorem occurrences_patchEntry (p : Parameters) (entry : String × Option String) :
    (p.patchEntry entry).occurrences entry.1 = entry.2.toList.map (entry.1, ·) := by
  rw [patchEntry]
  split
  · next value heq =>
      rw [heq]
      exact filter_setPairs_self entry.1 value p.pairs
  · next heq =>
      rw [heq]
      simp [erase, occurrences, without, List.filter_filter]

theorem occurrences_patch_of_not_mem {patch : Patch} {key : String}
    (h : key ∉ patch.map (·.1)) (p : Parameters) :
    (p.patch patch).occurrences key = p.occurrences key := by
  refine filter_patch (fun other => decide (other = key)) (fun other hother => ?_) p
  rw [decide_eq_false_iff_not]
  rintro rfl
  exact h hother

theorem patch_append (p : Parameters) (earlier later : Patch) :
    p.patch (earlier ++ later) = (p.patch earlier).patch later :=
  List.foldl_append

/-- Of the entries for a key, the last one decides. -/
theorem occurrences_patch_of_last (earlier : Patch) {key : String} (value : Option String)
    {later : Patch} (h : key ∉ later.map (·.1)) (p : Parameters) :
    (p.patch (earlier ++ (key, value) :: later)).occurrences key = value.toList.map (key, ·) := by
  rw [patch_append, patch_cons, occurrences_patch_of_not_mem h]
  exact occurrences_patchEntry _ (key, value)

theorem occurrences_patch_of_mem {patch : Patch} {key : String} {value : Option String}
    (hnodup : (patch.map (·.1)).Nodup) (h : (key, value) ∈ patch) (p : Parameters) :
    (p.patch patch).occurrences key = value.toList.map (key, ·) := by
  obtain ⟨earlier, later, rfl⟩ := List.append_of_mem h
  rw [List.map_append, List.nodup_append] at hnodup
  exact occurrences_patch_of_last earlier value (List.nodup_cons.1 hnodup.2.1).1 p

theorem without_of_not_mem {key : String} {pairs : List (String × String)}
    (h : pairs.filter (·.1 = key) = []) : without key pairs = pairs := by
  rw [without, List.filter_eq_self]
  intro pair hpair
  simpa using List.filter_eq_nil_iff.1 h pair hpair

theorem setPairs_of_single {key value : String} {pairs : List (String × String)}
    (h : pairs.filter (·.1 = key) = [(key, value)]) : setPairs key value pairs = pairs := by
  induction pairs with
  | nil => cases h
  | cons pair rest ih =>
      rw [setPairs]
      split
      · next hp =>
          rw [List.filter_cons_of_pos (by simpa using hp), List.cons_eq_cons] at h
          rw [without_of_not_mem h.2, h.1]
      · next hp =>
          rw [List.filter_cons_of_neg (by simpa using hp)] at h
          rw [ih h]

/-- An entry that has been applied has nothing to do. -/
theorem patchEntry_of_occurrences {p : Parameters} {entry : String × Option String}
    (h : p.occurrences entry.1 = entry.2.toList.map (entry.1, ·)) : p.patchEntry entry = p := by
  rw [patchEntry]
  split
  · next value heq =>
      rw [heq] at h
      exact congrArg Parameters.mk (setPairs_of_single h)
  · next heq =>
      rw [heq] at h
      exact congrArg Parameters.mk (without_of_not_mem h)

theorem patch_of_occurrences {p : Parameters} {patch : Patch}
    (h : ∀ entry ∈ patch, p.occurrences entry.1 = entry.2.toList.map (entry.1, ·)) :
    p.patch patch = p := by
  induction patch with
  | nil => rfl
  | cons entry rest ih =>
      rw [List.forall_mem_cons] at h
      rw [patch_cons, patchEntry_of_occurrences h.1, ih h.2]

theorem patch_patch {patch : Patch} (hnodup : (patch.map (·.1)).Nodup) (p : Parameters) :
    (p.patch patch).patch patch = p.patch patch :=
  patch_of_occurrences fun _ hentry => occurrences_patch_of_mem hnodup hentry p

end RecordSearch.Parameters
