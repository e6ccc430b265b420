/-!
# White space, and text without it at the ends

A value typed into a form or read from an address counts only by what stands
between its outer white space. White space is the Unicode property
`White_Space`, twenty-five characters; a zero-width space, a byte order mark
or a control character such as U+001F is not in it.

The work is done on lists of characters, where the two ends are a `dropWhile`
each, and `trim` wraps it for strings.
-/

namespace RecordSearch.Text

/-- The code points of the Unicode property `White_Space`, as ranges. -/
def blankRanges : List (Nat × Nat) :=
  [(0x09, 0x0D), (0x20, 0x20), (0x85, 0x85), (0xA0, 0xA0), (0x1680, 0x1680), (0x2000, 0x200A),
   (0x2028, 0x2029), (0x202F, 0x202F), (0x205F, 0x205F), (0x3000, 0x3000)]

/-- Whether a code point lies in one of the ranges, ends included. -/
def inRanges (ranges : List (Nat × Nat)) (n : Nat) : Bool :=
  ranges.any fun r => r.1 ≤ n && n ≤ r.2

/-- Whether a character is white space. -/
def isBlank (c : Char) : Bool :=
  inRanges blankRanges c.toNat

/-- The characters from the first to the last that is not white space. -/
def trimChars (cs : List Char) : List Char :=
  ((cs.dropWhile isBlank).reverse.dropWhile isBlank).reverse

/-- A text without the white space at its two ends. -/
def trim (s : String) : String :=
  String.ofList (trimChars s.toList)

/-- What a raw input stands for: its trimmed text, or nothing if that is
empty. -/
def normalize (raw : String) : Option String :=
  match trimChars raw.toList with
  | [] => none
  | kept => some (String.ofList kept)

/-- `normalize` of an input that may be absent. -/
def normalize? (raw : Option String) : Option String :=
  raw.bind normalize

theorem normalize_eq_none_iff {raw : String} :
    normalize raw = none ↔ trimChars raw.toList = [] := by
  cases h : trimChars raw.toList <;> simp [normalize, h]

theorem normalize_eq_some_iff {raw v : String} :
    normalize raw = some v ↔ trimChars raw.toList ≠ [] ∧ trim raw = v := by
  cases h : trimChars raw.toList <;> simp [normalize, trim, h]

end RecordSearch.Text
