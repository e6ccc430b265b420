/-!
# Maps in key order

Filter values, form controls and facets are maps from names, and wherever such
a map is listed it is listed by increasing key. So the map is its listing: pairs
in strictly increasing order of the key, compared character by character. Two
maps with the same entries are then equal, and nothing else has to be said about
order.
-/

namespace RecordSearch

/-- Pairs in which `key` has the value `a`, in order if they were before. -/
def KeyMap.insertPair {α : Type} (key : String) (a : α) : List (String × α) → List (String × α)
  | [] => [(key, a)]
  | pair :: rest =>
    if key < pair.1 then (key, a) :: pair :: rest
    else if pair.1 < key then pair :: KeyMap.insertPair key a rest
    else (key, a) :: rest

/-- Every key of pairs after an insertion is the new key or an old one. -/
theorem KeyMap.mem_insertPair_key {α : Type} {key : String} {a : α} {pairs : List (String × α)}
    {q : String × α} (h : q ∈ KeyMap.insertPair key a pairs) :
    q.1 = key ∨ q ∈ pairs := by
  induction pairs with
  | nil => simp_all [KeyMap.insertPair]
  | cons p rest ih =>
    simp only [KeyMap.insertPair] at h
    split at h
    · simp only [List.mem_cons] at h ⊢
      rcases h with rfl | h
      · exact .inl rfl
      · exact .inr h
    · split at h
      · simp only [List.mem_cons] at h ⊢
        rcases h with rfl | h
        · exact .inr (.inl rfl)
        · rcases ih h with h | h
          · exact .inl h
          · exact .inr (.inr h)
      · simp only [List.mem_cons] at h ⊢
        rcases h with rfl | h
        · exact .inl rfl
        · exact .inr (.inr h)

/-- Insertion keeps the keys strictly increasing. -/
theorem KeyMap.pairwise_insertPair {α : Type} {key : String} {a : α} {pairs : List (String × α)}
    (h : pairs.Pairwise (fun p q => p.1 < q.1)) :
    (KeyMap.insertPair key a pairs).Pairwise (fun p q => p.1 < q.1) := by
  induction pairs with
  | nil => simp [KeyMap.insertPair]
  | cons p rest ih =>
    have hp := List.pairwise_cons.1 h
    simp only [KeyMap.insertPair]
    split
    · next hlt =>
      refine List.pairwise_cons.2 ⟨fun q hq => ?_, h⟩
      rcases List.mem_cons.1 hq with rfl | hq
      · exact hlt
      · exact String.lt_trans hlt (hp.1 q hq)
    · next hge =>
      split
      · next hlt =>
        refine List.pairwise_cons.2 ⟨fun q hq => ?_, ih hp.2⟩
        rcases KeyMap.mem_insertPair_key hq with hq | hq
        · exact hq ▸ hlt
        · exact hp.1 q hq
      · next hle =>
        have heq : key = p.1 := String.le_antisymm (String.not_lt.1 hle) (String.not_lt.1 hge)
        refine List.pairwise_cons.2 ⟨fun q hq => ?_, hp.2⟩
        exact heq ▸ hp.1 q hq

/-- A finite map from names, listed by increasing name. -/
structure KeyMap (α : Type) where
  entries : List (String × α)
  sorted : entries.Pairwise (fun p q => p.1 < q.1)

namespace KeyMap

variable {α : Type}

@[ext] theorem ext {m n : KeyMap α} (h : m.entries = n.entries) : m = n := by
  cases m; cases n; cases h; rfl

instance [DecidableEq α] : DecidableEq (KeyMap α) := fun m n =>
  if h : m.entries = n.entries then isTrue (ext h)
  else isFalse fun heq => h (congrArg entries heq)

/-- The map without entries. -/
def empty : KeyMap α := ⟨[], .nil⟩

instance : Inhabited (KeyMap α) := ⟨empty⟩

/-- Gives a key a value, in place of the one it had. -/
def insert (m : KeyMap α) (key : String) (a : α) : KeyMap α :=
  ⟨insertPair key a m.entries, pairwise_insertPair m.sorted⟩

/-- Takes a key out. -/
def erase (m : KeyMap α) (key : String) : KeyMap α :=
  ⟨m.entries.filter (·.1 ≠ key), m.sorted.filter _⟩

/-- The value of a key. -/
def get? (m : KeyMap α) (key : String) : Option α :=
  (m.entries.find? (·.1 = key)).map (·.2)

def contains (m : KeyMap α) (key : String) : Bool :=
  m.entries.any (·.1 = key)

/-- The map of pairs, of which the last decides for its key. -/
def ofList (pairs : List (String × α)) : KeyMap α :=
  pairs.foldl (fun m pair => m.insert pair.1 pair.2) empty

/-- The entries by increasing key. -/
def toList (m : KeyMap α) : List (String × α) :=
  m.entries

/-- The map with every value replaced by its image. -/
def mapValues {β : Type} (f : α → β) (m : KeyMap α) : KeyMap β :=
  ⟨m.entries.map fun pair => (pair.1, f pair.2), by
    simpa [List.pairwise_map] using m.sorted⟩

end KeyMap

end RecordSearch
