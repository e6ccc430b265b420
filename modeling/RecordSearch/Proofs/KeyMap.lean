import RecordSearch.KeyMap

/-!
# Looking a key up after a change

A map is its sorted listing, but nobody who uses one wants to know that. These
equations say what a key has after an insertion, a removal, and a whole list
of insertions, and they are all that the rest of the theory asks of maps.
-/

namespace RecordSearch.KeyMap

variable {α : Type}

theorem find?_insertPair (key k : String) (a : α) (pairs : List (String × α)) :
    (insertPair key a pairs).find? (·.1 = k) =
      if k = key then some (key, a) else pairs.find? (·.1 = k) := by
  induction pairs with
  | nil =>
      rw [insertPair, List.find?_singleton]
      by_cases hk : k = key
      · subst hk
        simp
      · simp [hk, Ne.symm hk]
  | cons pair rest ih =>
      simp only [insertPair]
      split
      · by_cases hk : k = key
        · subst hk
          simp
        · simp [List.find?_cons, hk, Ne.symm hk]
      · next hge =>
          split
          · next hlt =>
              rw [List.find?_cons, ih, List.find?_cons]
              by_cases hk : k = key
              · subst hk
                have hne : pair.1 ≠ k := fun heq => String.lt_irrefl k (heq ▸ hlt)
                simp [hne]
              · simp [hk]
          · next hle =>
              have heq : key = pair.1 :=
                String.le_antisymm (String.not_lt.1 hle) (String.not_lt.1 hge)
              by_cases hk : k = key
              · subst hk
                simp
              · have hne : pair.1 ≠ k := fun h => hk (h ▸ heq.symm)
                simp [hk, Ne.symm hk, hne]

theorem get?_insert (m : KeyMap α) (key k : String) (a : α) :
    (m.insert key a).get? k = if k = key then some a else m.get? k := by
  rw [get?, insert, find?_insertPair]
  split
  · rfl
  · rfl

theorem get?_erase (m : KeyMap α) (key k : String) :
    (m.erase key).get? k = if k = key then none else m.get? k := by
  rw [get?, erase, get?, List.find?_filter]
  split
  · next hk =>
      subst hk
      simp
  · next hk =>
      congr 2
      funext pair
      by_cases hp : pair.1 = k
      · simp [hp, hk]
      · simp [hp]

@[simp] theorem get?_empty (k : String) : (empty : KeyMap α).get? k = none := rfl

theorem contains_eq (m : KeyMap α) (k : String) : m.contains k = (m.get? k).isSome := by
  rw [contains, get?, Option.isSome_map, List.isSome_find?]

theorem get?_foldl_insert (pairs : List (String × α)) (m : KeyMap α) (k : String) :
    (pairs.foldl (fun m pair => m.insert pair.1 pair.2) m).get? k =
      ((pairs.reverse.find? (·.1 = k)).map (·.2)).or (m.get? k) := by
  induction pairs generalizing m with
  | nil => simp
  | cons pair rest ih =>
      rw [List.foldl_cons, ih, get?_insert, List.reverse_cons, List.find?_append,
        List.find?_singleton]
      cases rest.reverse.find? (·.1 = k) with
      | some found => simp
      | none =>
          by_cases hk : k = pair.1
          · simp [hk]
          · simp [hk, Ne.symm hk]

/-- Of the pairs with a key, the last one counts. -/
theorem get?_ofList (pairs : List (String × α)) (k : String) :
    (ofList pairs).get? k = (pairs.reverse.find? (·.1 = k)).map (·.2) := by
  rw [ofList, get?_foldl_insert, get?_empty, Option.or_none]

theorem mem_of_get?_ofList {pairs : List (String × α)} {k : String} {a : α}
    (h : (ofList pairs).get? k = some a) : (k, a) ∈ pairs := by
  rw [get?_ofList, Option.map_eq_some_iff] at h
  obtain ⟨pair, hfind, rfl⟩ := h
  have hkey : pair.1 = k := by simpa using List.find?_some hfind
  have hmem := List.mem_reverse.1 (List.mem_of_find?_eq_some hfind)
  rw [← hkey]
  exact hmem

theorem exists_get?_ofList {pairs : List (String × α)} {k : String} {a : α}
    (h : (k, a) ∈ pairs) : ∃ b, (ofList pairs).get? k = some b := by
  rw [get?_ofList, ← Option.isSome_iff_exists, Option.isSome_map, List.isSome_find?,
    List.any_reverse, List.any_eq_true]
  exact ⟨(k, a), h, by simp⟩

/-- Of a list that has one value for each name, a map has what the named item has. -/
theorem get?_ofList_filterMap {β : Type} {items : List β} {name : β → String}
    {value : β → Option α} {x : β} (hx : x ∈ items)
    (hown : ∀ y ∈ items, name y = name x → value y = value x) :
    (ofList (items.filterMap fun y => (value y).map (name y, ·))).get? (name x) = value x := by
  cases hget : (ofList (items.filterMap fun y => (value y).map (name y, ·))).get? (name x) with
  | some v =>
      obtain ⟨y, hy, hentry⟩ := List.mem_filterMap.1 (mem_of_get?_ofList hget)
      obtain ⟨w, hw, heq⟩ := Option.map_eq_some_iff.1 hentry
      obtain ⟨hname, rfl⟩ := Prod.mk.inj heq
      rw [← hown y hy hname, hw]
  | none =>
      cases hvalue : value x with
      | none => rfl
      | some v =>
          have hentry : (name x, v) ∈ items.filterMap fun y => (value y).map (name y, ·) :=
            List.mem_filterMap.2 ⟨x, hx, by rw [hvalue, Option.map_some]⟩
          obtain ⟨w, hw⟩ := exists_get?_ofList hentry
          rw [hget] at hw
          cases hw

end RecordSearch.KeyMap
