import RecordSearch.Text.Blank
import RecordSearch.Text.CaseTable

/-!
# Lower case

Keywords are compared in ASCII lower case, record names in full Unicode lower
case. The full mapping is a character's partner in the case table, with two
rules on top: the dotted capital I becomes an i and a combining dot, and a
capital sigma becomes the final sigma when it ends a word. It ends a word when,
skipping case-ignorable characters, the nearest character before it is cased
and the nearest after it is not.
-/

namespace RecordSearch.Text

/-- ASCII capitals made small, all other characters kept. -/
def asciiLower (s : String) : String :=
  String.ofList (s.toList.map Char.toLower)

/-- Whether a run of the case table covers the code point `n`. -/
def CaseRun.covers (r : CaseRun) (n : Nat) : Bool :=
  r.first ≤ n && n ≤ r.last && (n - r.first) % r.step == 0

/-- A character's lower-case partner, or itself. -/
def lowerPartner (c : Char) : Char :=
  if c.toNat < 0x80 then c.toLower
  else match lowerRuns.find? (·.covers c.toNat) with
    | some r => Char.ofNat (c.toNat + r.offset).toNat
    | none => c

def isCased (c : Char) : Bool :=
  inRanges casedRanges c.toNat

def isCaseIgnorable (c : Char) : Bool :=
  inRanges caseIgnorableRanges c.toNat

/-- Whether the first character that is not case-ignorable is cased. -/
def meetsCased (cs : List Char) : Bool :=
  match cs.dropWhile isCaseIgnorable with
  | [] => false
  | c :: _ => isCased c

/-- The lower case of `c` between the characters `before` it, nearest first,
and those `after` it. -/
def lowerBetween (before : List Char) (c : Char) (after : List Char) : List Char :=
  if c = 'Σ' then
    if meetsCased before && !meetsCased after then ['ς'] else ['σ']
  else if c = 'İ' then ['i', '\u0307']
  else [lowerPartner c]

/-- Lower-cases a text of which the characters `before` are already done. -/
def lowerFrom (before : List Char) : List Char → List Char
  | [] => []
  | c :: rest => lowerBetween before c rest ++ lowerFrom (c :: before) rest

/-- Full lower case, by character and context. -/
def lowerChars (cs : List Char) : List Char :=
  lowerFrom [] cs

/-- Whether the characters of `needle` stand in a row somewhere in `hay`. -/
def occursIn (needle : List Char) : List Char → Bool
  | [] => needle.isEmpty
  | c :: rest => needle.isPrefixOf (c :: rest) || occursIn needle rest

/-- Whether `term` occurs in `text` when case is ignored. -/
def containsIgnoringCase (text term : String) : Bool :=
  occursIn (lowerChars term.toList) (lowerChars text.toList)

end RecordSearch.Text
