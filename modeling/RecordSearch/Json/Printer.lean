import RecordSearch.Json.Value

/-!
# Writing JSON

A value is written in one line without blanks, or over several lines with two
spaces for each level. Strings escape quotes, backslashes and control
characters, and nothing else.
-/

namespace RecordSearch.Json

/-- How a value is laid out. -/
inductive Layout
  | compact
  | indented
deriving DecidableEq, Repr

namespace Layout

/-- The break before an item at a depth of nesting. -/
def lineBreak : Layout → Nat → List Char
  | .compact, _ => []
  | .indented, depth => '\n' :: List.replicate (2 * depth) ' '

/-- What stands between a key and its value. -/
def keySeparator : Layout → List Char
  | .compact => [':']
  | .indented => [':', ' ']

end Layout

/-- One of the two lower-case hexadecimal digits of a control character. -/
def controlDigit (n : Nat) : Char :=
  Char.ofNat (if n < 10 then 0x30 + n else 0x61 + (n - 10))

/-- The spelling of a character inside a string. -/
def escapeChar (c : Char) : List Char :=
  match c with
  | '"' => ['\\', '"']
  | '\\' => ['\\', '\\']
  | '\x08' => ['\\', 'b']
  | '\x0C' => ['\\', 'f']
  | '\n' => ['\\', 'n']
  | '\r' => ['\\', 'r']
  | '\t' => ['\\', 't']
  | c =>
    if c.toNat < 0x20 then
      ['\\', 'u', '0', '0', controlDigit (c.toNat / 16), controlDigit (c.toNat % 16)]
    else [c]

/-- The spelling of a string. -/
def writeText (s : String) : List Char :=
  '"' :: s.toList.flatMap escapeChar ++ ['"']

mutual

/-- The spelling of a value at a depth of nesting. -/
def Value.write (layout : Layout) (depth : Nat) : Value → List Char
  | .null => ['n', 'u', 'l', 'l']
  | .bool true => ['t', 'r', 'u', 'e']
  | .bool false => ['f', 'a', 'l', 's', 'e']
  | .number digits => digits
  | .text s => writeText s
  | .unreadable => ['"', '\\', 'u', 'd', '8', '0', '0', '"']
  | .array [] => ['[', ']']
  | .array (v :: rest) =>
    '[' :: layout.lineBreak (depth + 1) ++ v.write layout (depth + 1) ++
      Value.writeItems layout (depth + 1) rest ++ layout.lineBreak depth ++ [']']
  | .object [] => ['\x7b', '\x7d']
  | .object ((key, v) :: rest) =>
    '\x7b' :: layout.lineBreak (depth + 1) ++ writeText key ++ layout.keySeparator ++
      v.write layout (depth + 1) ++ Value.writeMembers layout (depth + 1) rest ++
      layout.lineBreak depth ++ ['\x7d']

/-- The spelling of the items of an array after the first. -/
def Value.writeItems (layout : Layout) (depth : Nat) : List Value → List Char
  | [] => []
  | v :: rest =>
    ',' :: layout.lineBreak depth ++ v.write layout depth ++ Value.writeItems layout depth rest

/-- The spelling of the members of an object after the first. -/
def Value.writeMembers (layout : Layout) (depth : Nat) : List (String × Value) → List Char
  | [] => []
  | (key, v) :: rest =>
    ',' :: layout.lineBreak depth ++ writeText key ++ layout.keySeparator ++
      v.write layout depth ++ Value.writeMembers layout depth rest

end

/-- A value in one line. -/
def Value.compact (v : Value) : String :=
  String.ofList (v.write .compact 0)

/-- A value over several lines. -/
def Value.pretty (v : Value) : String :=
  String.ofList (v.write .indented 0)

end RecordSearch.Json
