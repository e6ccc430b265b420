import RecordSearch.Text.Blank
import RecordSearch.Text.Number
import RecordSearch.Text.Printable

/-!
# Quoted text

Messages show a text between double quotes so that every character of it can
be told apart. Quote, backslash and the four usual control characters are
escaped by a backslash and one character. A character that would not be seen,
or that would be drawn onto its neighbour, is written as its code point.
-/

namespace RecordSearch.Text

/-- Whether a character is drawn onto the one before it. -/
def isAttached (c : Char) : Bool :=
  inRanges graphemeExtendRanges c.toNat && !inRanges halfwidthSoundMarkRanges c.toNat

/-- Whether a character would not be seen. -/
def isUnseen (c : Char) : Bool :=
  inRanges unprintableRanges c.toNat || inRanges hangulFillerRanges c.toNat

/-- Whether a character of quoted text is written as its code point. -/
def needsCodePoint (c : Char) : Bool :=
  if 0x20 ≤ c.toNat && c.toNat ≤ 0x7E then false else isAttached c || isUnseen c

/-- The spelling of one character inside quotes. -/
def quoteChar (c : Char) : List Char :=
  match c with
  | '\x00' => ['\\', '0']
  | '\t' => ['\\', 't']
  | '\r' => ['\\', 'r']
  | '\n' => ['\\', 'n']
  | '\\' => ['\\', '\\']
  | '"' => ['\\', '"']
  | c => if needsCodePoint c then ['\\', 'u', '\x7b'] ++ hexDigits c.toNat ++ ['\x7d'] else [c]

/-- A text in double quotes. -/
def quoted (s : String) : String :=
  String.ofList ('"' :: s.toList.flatMap quoteChar ++ ['"'])

/-- Quoted texts in square brackets, separated by a comma and a space. -/
def quotedList (xs : List String) : String :=
  "[" ++ String.intercalate ", " (xs.map quoted) ++ "]"

end RecordSearch.Text
