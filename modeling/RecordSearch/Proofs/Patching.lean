import RecordSearch.Proofs.Parameters

/-!
# Where a patch leaves the pairs

A patch is applied entry by entry, and every entry moves what the next one will
find. What comes of it in the end can still be read off the first parameters in
one pass, as long as no key has two entries: a pair stays, goes, or takes a new
value by what the patch says about its key, and nothing depends on the order of
the entries but that of the keys that were not there before.

With two entries for a key the last one decides what the key has in the end, but
not where. A key that is removed and written again has lost its place.
-/

namespace RecordSearch.Parameters

/-- The pairs that outlive a patch of distinct keys, with their values after it:
those of other keys, and of a key that is written the first one. -/
def survivors (patch : Patch) : List (String × String) → List (String × String)
  | [] => []
  | (key, old) :: rest =>
    match patch.lookup key with
    | none => (key, old) :: survivors patch rest
    | some none => survivors patch rest
    | some (some value) => (key, value) :: without key (survivors patch rest)

/-- The pairs that a patch writes for keys that were not there. -/
def newcomers (patch : Patch) (pairs : List (String × String)) : List (String × String) :=
  (patch.filter (·.1 ∉ pairs.map (·.1))).filterMap fun entry => entry.2.map (entry.1, ·)

/-- The second parameters are the first with the changes of a patch. -/
structure Patched (patch : Patch) (p after : Parameters) : Prop where
  /-- Pairs whose key has no entry are the same ones in the same order. -/
  others : after.pairs.filter (fun pair => pair.1 ∉ patch.map (·.1)) =
    p.pairs.filter fun pair => pair.1 ∉ patch.map (·.1)
  /-- The last entry for a key leaves one pair with its value, or no pair. -/
  decided : ∀ earlier key value later, patch = earlier ++ (key, value) :: later →
    key ∉ later.map (·.1) → after.occurrences key = value.toList.map (key, ·)

/-- The second parameters have the changes of a patch in the places of the first,
and are not changed by it any more. -/
structure Arranged (patch : Patch) (p after : Parameters) : Prop where
  pairs : after.pairs = survivors patch p.pairs ++ newcomers patch p.pairs
  /-- A written key stands behind those pairs that survive of what was before its
  first occurrence. -/
  held : ∀ before key old rest value, p.pairs = before ++ (key, old) :: rest →
    key ∉ before.map (·.1) → (key, some value) ∈ patch →
    ∃ behind, after.pairs = survivors patch before ++ (key, value) :: behind
  again : after.patch patch = after

theorem without_without (key k : String) (pairs : List (String × String)) :
    without key (without k pairs) = without k (without key pairs) := by
  rw [without, without, List.filter_filter, without, without, List.filter_filter]
  exact List.filter_congr fun pair _ => Bool.and_comm _ _

theorem without_without_self (key : String) (pairs : List (String × String)) :
    without key (without key pairs) = without key pairs := by
  rw [without, without, List.filter_filter]
  exact List.filter_congr fun pair _ => Bool.and_self _

section

variable {key k : String}

theorem without_cons_self (key value : String) (rest : List (String × String)) :
    without key ((key, value) :: rest) = without key rest :=
  List.filter_cons_of_neg (by simp)

theorem without_cons_of_ne (h : k ≠ key) (value : String) (rest : List (String × String)) :
    without key ((k, value) :: rest) = (k, value) :: without key rest :=
  List.filter_cons_of_pos (by simpa using h)

end

/-! ## The pairs that survive -/

section

variable {patch : Patch} {key : String}

theorem survivors_of_other (h : patch.lookup key = none) (old : String)
    (rest : List (String × String)) :
    survivors patch ((key, old) :: rest) = (key, old) :: survivors patch rest := by
  rw [survivors, h]

theorem survivors_of_removed (h : patch.lookup key = some none) (old : String)
    (rest : List (String × String)) :
    survivors patch ((key, old) :: rest) = survivors patch rest := by
  rw [survivors, h]

theorem survivors_of_written {value : String} (h : patch.lookup key = some (some value))
    (old : String) (rest : List (String × String)) :
    survivors patch ((key, old) :: rest) =
      (key, value) :: without key (survivors patch rest) := by
  rw [survivors, h]

theorem survivors_congr {other : Patch} {pairs : List (String × String)}
    (h : ∀ pair ∈ pairs, patch.lookup pair.1 = other.lookup pair.1) :
    survivors patch pairs = survivors other pairs := by
  induction pairs with
  | nil => rfl
  | cons pair rest ih =>
      rw [List.forall_mem_cons] at h
      rw [survivors, survivors, h.1, ih h.2]

theorem survivors_without (patch : Patch) (key : String) (pairs : List (String × String)) :
    survivors patch (without key pairs) = without key (survivors patch pairs) := by
  induction pairs with
  | nil => rfl
  | cons pair rest ih =>
      obtain ⟨k, old⟩ := pair
      by_cases hkey : k = key
      · subst hkey
        rw [without_cons_self, ih]
        match hentry : patch.lookup k with
        | none => rw [survivors_of_other hentry, without_cons_self]
        | some none => rw [survivors_of_removed hentry]
        | some (some value) =>
            rw [survivors_of_written hentry, without_cons_self, without_without_self]
      · rw [without_cons_of_ne hkey]
        match hentry : patch.lookup k with
        | none => rw [survivors_of_other hentry, survivors_of_other hentry,
            without_cons_of_ne hkey, ih]
        | some none => rw [survivors_of_removed hentry, survivors_of_removed hentry, ih]
        | some (some value) =>
            rw [survivors_of_written hentry, survivors_of_written hentry,
              without_cons_of_ne hkey, ih, without_without]

/-- A pair survives behind others unless its key is written and among theirs. -/
theorem survivors_append (patch : Patch) (front back : List (String × String)) :
    survivors patch (front ++ back) = survivors patch front ++
      (survivors patch back).filter fun pair =>
        pair.1 ∈ front.map (·.1) → (patch.lookup pair.1).join = none := by
  induction front with
  | nil => exact (List.filter_eq_self.2 (by simp)).symm
  | cons pair rest ih =>
      obtain ⟨k, old⟩ := pair
      have hmore (pair : String × String) :
          (pair.1 ∈ ((k, old) :: rest).map (·.1) → (patch.lookup pair.1).join = none) ↔
            (pair.1 = k → (patch.lookup k).join = none) ∧
              (pair.1 ∈ rest.map (·.1) → (patch.lookup pair.1).join = none) := by
        rw [List.map_cons, List.mem_cons, or_imp]
        exact and_congr_left' (forall_congr' fun hk => by rw [hk])
      rw [List.cons_append]
      simp only [hmore]
      match hentry : patch.lookup k with
      | none =>
          rw [survivors_of_other hentry, survivors_of_other hentry, ih, List.cons_append]
          simp
      | some none =>
          rw [survivors_of_removed hentry, survivors_of_removed hentry, ih]
          simp
      | some (some value) =>
          rw [survivors_of_written hentry, survivors_of_written hentry, ih, without,
            List.filter_append, List.filter_filter, List.cons_append]
          simp [without]

theorem survivors_held {value : String} (hentry : patch.lookup key = some (some value))
    {before : List (String × String)} (hfresh : key ∉ before.map (·.1)) (old : String)
    (rest : List (String × String)) :
    ∃ behind, survivors patch (before ++ (key, old) :: rest) =
      survivors patch before ++ (key, value) :: behind := by
  rw [survivors_append, survivors_of_written hentry]
  exact ⟨_, congrArg _ (List.filter_cons_of_pos (decide_eq_true fun hmem => absurd hmem hfresh))⟩

end

/-! ## One entry more -/

section

variable {rest : Patch} {key : String} {pairs : List (String × String)}

theorem lookup_cons_of_ne {k : String} (h : k ≠ key) (change : Option String) (rest : Patch) :
    List.lookup k ((key, change) :: rest) = rest.lookup k := by
  rw [List.lookup_cons, beq_false_of_ne h]

theorem survivors_nil (pairs : List (String × String)) : survivors [] pairs = pairs := by
  induction pairs with
  | nil => rfl
  | cons pair rest ih => rw [survivors_of_other List.lookup_nil, ih]

theorem survivors_cons_of_fresh (h : key ∉ pairs.map (·.1)) (change : Option String)
    (rest : Patch) : survivors ((key, change) :: rest) pairs = survivors rest pairs := by
  refine survivors_congr fun pair hpair => lookup_cons_of_ne ?_ change rest
  rintro rfl
  exact h (List.mem_map_of_mem hpair)

/-- Removing a key before the other entries is removing it with them. -/
theorem survivors_erase (key : String) (rest : Patch) (pairs : List (String × String)) :
    survivors rest (without key pairs) = survivors ((key, none) :: rest) pairs := by
  induction pairs with
  | nil => rfl
  | cons pair tail ih =>
      obtain ⟨k, old⟩ := pair
      by_cases hkey : k = key
      · subst hkey
        rw [without_cons_self, ih, survivors_of_removed List.lookup_cons_self]
      · rw [without_cons_of_ne hkey, survivors, survivors, lookup_cons_of_ne hkey, ih]

theorem without_survivors_cons (key : String) (change : Option String) (rest : Patch)
    (pairs : List (String × String)) :
    without key (survivors ((key, change) :: rest) pairs) =
      survivors rest (without key pairs) := by
  have hgone : key ∉ (without key pairs).map (·.1) := by
    simp [without]
  rw [← survivors_without, survivors_cons_of_fresh hgone]

/-- Writing a key that is there, likewise. -/
theorem survivors_set (hrest : rest.lookup key = none) (value : String)
    (hheld : key ∈ pairs.map (·.1)) :
    survivors rest (setPairs key value pairs) = survivors ((key, some value) :: rest) pairs := by
  induction pairs with
  | nil => cases hheld
  | cons pair tail ih =>
      obtain ⟨k, old⟩ := pair
      by_cases hkey : k = key
      · subst hkey
        rw [setPairs, if_pos rfl, survivors_of_other hrest,
          survivors_of_written List.lookup_cons_self, without_survivors_cons]
      · have htail : key ∈ tail.map (·.1) := (List.mem_cons.1 hheld).resolve_left (Ne.symm hkey)
        rw [setPairs, if_neg hkey, survivors, survivors, lookup_cons_of_ne hkey, ih htail]

theorem newcomers_congr {others : List (String × String)}
    (h : ∀ entry ∈ rest, entry.1 ∈ others.map (·.1) ↔ entry.1 ∈ pairs.map (·.1)) :
    newcomers rest others = newcomers rest pairs := by
  rw [newcomers, newcomers,
    List.filter_congr fun entry hentry => decide_eq_decide.2 (not_congr (h entry hentry))]

theorem newcomers_of_held (h : key ∈ pairs.map (·.1)) (change : Option String) (rest : Patch) :
    newcomers ((key, change) :: rest) pairs = newcomers rest pairs := by
  rw [newcomers, List.filter_cons, if_neg (by simpa using h), newcomers]

theorem newcomers_of_removed (key : String) (rest : Patch) (pairs : List (String × String)) :
    newcomers ((key, none) :: rest) pairs = newcomers rest pairs := by
  rw [newcomers, List.filter_cons]
  split
  · rfl
  · rfl

theorem newcomers_of_fresh (h : key ∉ pairs.map (·.1)) (value : String) (rest : Patch) :
    newcomers ((key, some value) :: rest) pairs = (key, value) :: newcomers rest pairs := by
  rw [newcomers, List.filter_cons, if_pos (decide_eq_true h)]
  rfl

/-- An entry brings or removes no key but its own. -/
theorem mem_keys_patchEntry {entry : String × Option String} {k : String} (h : k ≠ entry.1)
    (p : Parameters) : k ∈ (p.patchEntry entry).keys ↔ k ∈ p.keys := by
  have hsame : (p.patchEntry entry).occurrences k = p.occurrences k :=
    filter_patchEntry (fun other => decide (other = k)) (decide_eq_false (Ne.symm h)) p
  rw [← Decidable.not_iff_not, ← occurrences_eq_nil_iff, ← occurrences_eq_nil_iff, hsame]

theorem newcomers_patchEntry {entry : String × Option String} (h : entry.1 ∉ rest.map (·.1))
    (p : Parameters) :
    newcomers rest (p.patchEntry entry).pairs = newcomers rest p.pairs := by
  refine newcomers_congr fun other hother => mem_keys_patchEntry ?_ p
  rintro heq
  exact h (heq ▸ List.mem_map_of_mem hother)

end

/-! ## The whole patch -/

theorem lookup_eq_none_of_not_mem {patch : Patch} {key : String} (h : key ∉ patch.map (·.1)) :
    patch.lookup key = none := by
  rw [List.lookup_eq_none_iff]
  intro entry hentry
  exact bne_iff_ne.2 fun heq => h (heq ▸ List.mem_map_of_mem hentry)

theorem lookup_of_mem {patch : Patch} {key : String} {change : Option String}
    (hnodup : (patch.map (·.1)).Nodup) (h : (key, change) ∈ patch) :
    patch.lookup key = some change := by
  induction patch with
  | nil => cases h
  | cons entry rest ih =>
      rw [List.map_cons, List.nodup_cons] at hnodup
      rcases List.mem_cons.1 h with rfl | h
      · exact List.lookup_cons_self
      · have hne : key ≠ entry.1 := by
          rintro rfl
          exact hnodup.1 (List.mem_map.2 ⟨_, h, rfl⟩)
        rw [lookup_cons_of_ne hne, ih hnodup.2 h]

/-- One pass over the pairs does what the entries do one after another. -/
theorem pairs_patch {patch : Patch} (hnodup : (patch.map (·.1)).Nodup) (p : Parameters) :
    (p.patch patch).pairs = survivors patch p.pairs ++ newcomers patch p.pairs := by
  induction patch generalizing p with
  | nil => rw [survivors_nil]; exact (List.append_nil _).symm
  | cons entry rest ih =>
      obtain ⟨key, change⟩ := entry
      rw [List.map_cons, List.nodup_cons] at hnodup
      have hrest : rest.lookup key = none := lookup_eq_none_of_not_mem hnodup.1
      rw [patch_cons, ih hnodup.2, newcomers_patchEntry hnodup.1]
      match change with
      | none =>
          rw [newcomers_of_removed, ← survivors_erase]
          rfl
      | some value =>
          by_cases hheld : key ∈ p.pairs.map (·.1)
          · rw [newcomers_of_held hheld, ← survivors_set hrest value hheld]
            rfl
          · -- The key goes to the end, and no later entry moves it from there.
            have hset : (p.patchEntry (key, some value)).pairs = p.pairs ++ [(key, value)] :=
              setPairs_of_not_mem hheld value
            have hlast : survivors rest [(key, value)] = [(key, value)] :=
              survivors_of_other hrest value []
            rw [hset, survivors_append, hlast, List.filter_cons_of_pos, newcomers_of_fresh hheld,
              survivors_cons_of_fresh hheld, List.append_assoc]
            · rfl
            · exact decide_eq_true fun _ => congrArg Option.join hrest

theorem patched_patch (patch : Patch) (p : Parameters) : Patched patch p (p.patch patch) := by
  refine ⟨?_, ?_⟩
  · refine filter_patch (fun key => decide (key ∉ patch.map (·.1))) (fun key hkey => ?_) p
    simpa using hkey
  · rintro earlier key value later rfl hlast
    exact occurrences_patch_of_last earlier value hlast p

/-- A patch leaves the pairs of other keys as they are, and of its own keys what
the last entry says. With one entry for each key, the pairs keep their places,
new ones come behind in the order of the patch, and a second time it does
nothing. -/
theorem patch_arranges (p : Parameters) (patch : Patch) :
    Patched patch p (p.patch patch) ∧
      ((patch.map (·.1)).Nodup → Arranged patch p (p.patch patch)) := by
  refine ⟨patched_patch patch p, fun hnodup => ⟨pairs_patch hnodup p, ?_, patch_patch hnodup p⟩⟩
  intro before key old rest value hpairs hfresh hentry
  obtain ⟨behind, hbehind⟩ := survivors_held (lookup_of_mem hnodup hentry) hfresh old rest
  refine ⟨behind ++ newcomers patch p.pairs, ?_⟩
  rw [pairs_patch hnodup, hpairs, hbehind, List.append_assoc, List.cons_append]

/-- Parameters with two keys that repeat. -/
def crowdedParameters : Parameters :=
  ⟨[("lang", "en"), ("q", "a"), ("page", "2"), ("lang", "de"), ("q", "b"), ("page", "3")]⟩

/-- One key that repeats is written and one is removed, and there are two new ones. -/
def crowdedPatch : Patch :=
  [("tab", some "1"), ("page", none), ("q", some "c"), ("alias", none), ("sort", some "up")]

theorem patch_arranges_crowded :
    (crowdedPatch.map (·.1)).Nodup ∧
      (crowdedParameters.patch crowdedPatch).pairs = [("lang", "en"), ("q", "c"), ("lang", "de"),
        ("tab", "1"), ("sort", "up")] ∧
      Patched crowdedPatch crowdedParameters (crowdedParameters.patch crowdedPatch) ∧
      Arranged crowdedPatch crowdedParameters (crowdedParameters.patch crowdedPatch) := by
  have hnodup : (crowdedPatch.map (·.1)).Nodup := by decide
  obtain ⟨hpatched, harranged⟩ := patch_arranges crowdedParameters crowdedPatch
  exact ⟨hnodup, by decide, hpatched, harranged hnodup⟩

end RecordSearch.Parameters
