/-!
# A cache of recent entries

The cache lists its entries by last use, the latest first, and holds at most as
many as its capacity. Looking an entry up is a use. An entry that no longer fits
is the one that was used least recently.
-/

namespace RecordSearch

/-- Entries by last use, the latest first. -/
structure RecentCache (α : Type) where
  capacity : Nat
  entries : List (String × α)
deriving DecidableEq, Repr

namespace RecentCache

variable {α : Type}

/-- A cache without entries. -/
def ofCapacity (capacity : Nat) : RecentCache α :=
  ⟨capacity, []⟩

/-- Looks up a key without using it. -/
def peek? (c : RecentCache α) (key : String) : Option α :=
  (c.entries.find? (·.1 = key)).map (·.2)

/-- Makes an entry the latest, and drops what no longer fits. -/
def insert (c : RecentCache α) (key : String) (a : α) : RecentCache α :=
  { c with entries := ((key, a) :: c.entries.filter (·.1 ≠ key)).take c.capacity }

/-- The cache after a use of a key. -/
def touch (c : RecentCache α) (key : String) : RecentCache α :=
  match c.peek? key with
  | some a => c.insert key a
  | none => c

end RecentCache

end RecordSearch
