import RecordSearch.ResultPage

/-!
# Turning pages

The page number is the value of a field like any other, so a page turn goes
the way of every value change. Whatever text the field holds, a page number can
be read from it: the first page stands for everything that is not a positive
32-bit number.
-/

namespace RecordSearch

/-- Which way to turn. -/
inductive PageTurn
  | previous
  | next
deriving DecidableEq, Repr

namespace PageTurn

def keyword : PageTurn → String
  | .previous => "previous"
  | .next => "next"

/-- Reads a direction, whatever its case and the blanks around it. -/
def parse (raw : String) : Option PageTurn :=
  match Text.asciiLower (Text.trim raw) with
  | "previous" | "prev" => some .previous
  | "next" => some .next
  | _ => none

/-- The page that a turn leads to. -/
def target : PageTurn → UInt32 → UInt32
  | .previous, page => precedingPage page
  | .next, page => followingPage page

end PageTurn

namespace Filters

/-- The page number that a field holds. -/
def page (fs : Filters) (field : String) : UInt32 :=
  (((fs.value? field).bind fun raw => Text.readUInt32 (Text.trim raw)).filter (1 ≤ ·)).getD 1

/-- The change that puts a page field back to its default. -/
def pageReset (field : String) : String × Option String :=
  (field, none)

/-- Turns the page that a field holds and tells the new one. -/
def turnPage (fs : Filters) (field : String) (turn : PageTurn) :
    Except SearchError UInt32 × Filters :=
  let page := turn.target (fs.page field)
  match fs.assign [(field, some (toString page))] .pageTurn with
  | (.ok _, fs) => (.ok page, fs)
  | (.error e, fs) => (.error e, fs)

end Filters

end RecordSearch
