import RecordSearch.Decimal.Shortest
import RecordSearch.Json.Token
import RecordSearch.Json.Value

/-!
# Items of any shape

A backend may send items of which nothing is known but that they are JSON. They
are kept in a normal form: an object has each key once, with its last value, and
a number is a 64-bit integer or else a binary floating-point number, spelled so
that it can be told from an integer. Items nested too deeply, numbers beyond the
largest floating-point number and texts with half a surrogate pair are refused.
-/

namespace RecordSearch.Json

open RecordSearch.Decimal

/-- Adds digits to a number as long as it fits into 64 bits. Tells the rest, too. -/
def readWord (n : Nat) : List Char → Nat × List Char
  | [] => (n, [])
  | c :: rest =>
    match Text.digitValue c with
    | some d => if 10 * n + d < UInt64.size then readWord (10 * n + d) rest else (n, c :: rest)
    | none => (n, c :: rest)

/-- The value of an exponent with its mark; zero if there is none. -/
def readExponent : List Char → Int
  | [] => 0
  | _ :: '-' :: rest => -((Text.readDigits 0 rest).getD 0 : Nat)
  | _ :: '+' :: rest => ((Text.readDigits 0 rest).getD 0 : Nat)
  | _ :: rest => ((Text.readDigits 0 rest).getD 0 : Nat)

/-- A number without its sign, as `word * 10 ^ exponent` with a word of 64 bits.
Digits that do not fit are dropped: those before the point count in the exponent,
and the digits after it get a chance of their own. -/
def readScaled (digits : List Char) : Nat × Int :=
  let (word, rest) := readWord 0 digits
  let dropped := (rest.takeWhile Token.isDigit).length
  match rest.dropWhile Token.isDigit with
  | '.' :: fraction =>
    let (word, rest) := readWord word fraction
    let kept := fraction.length - rest.length
    (word, (dropped : Int) - kept + readExponent (rest.dropWhile Token.isDigit))
  | rest => (word, dropped + readExponent rest)

/-- The exponent of the largest power of ten that is a floating-point number. -/
def greatestPower : Nat := 308

/-- Divides by the greatest power `times` times, and then by `10 ^ rest`. -/
def scaleDown? (x : Binary64) (rest : Nat) : Nat → Option Binary64
  | 0 => (Binary64.ofDecimal? 1 rest).bind x.div?
  | times + 1 =>
    if x.isZero then some x
    else
      match (Binary64.ofDecimal? 1 greatestPower).bind x.div? with
      | some x => scaleDown? x rest times
      | none => none

/-- Multiplies by `10 ^ n`, unless the product is too large. -/
def scaleUp? (x : Binary64) (n : Nat) : Option Binary64 :=
  if n ≤ greatestPower then (Binary64.ofDecimal? 1 n).bind x.mul?
  else if x.isZero then some x
  else none

/-- The floating-point number that a number without its sign is read as. Its word
is rounded, and so is each product or quotient with a power of ten, so the last
bit may differ from that of the nearest one. -/
def readBinary64? (digits : List Char) : Option Binary64 :=
  let (word, exponent) := readScaled digits
  (Binary64.ofNat? word).bind fun x =>
    if 0 ≤ exponent then scaleUp? x exponent.toNat
    else
      let times := ((-exponent).toNat - 1) / greatestPower
      scaleDown? x ((-exponent).toNat - times * greatestPower) times

/-- Whether a number is spelled as an integer and is one of 64 bits. A negative
zero is none. -/
def isWordSized (digits : List Char) : Bool :=
  match digits with
  | '-' :: rest =>
    match Text.readDecimal rest with
    | some n => 1 ≤ n && n ≤ Nat.pow 2 63
    | none => false
  | _ =>
    match Text.readDecimal digits with
    | some n => n < UInt64.size
    | none => false

/-- The normal form of a number. -/
def normalNumber? (digits : List Char) : Option Value :=
  if isWordSized digits then some (.number digits)
  else
    match digits with
    | '-' :: rest => (readBinary64? rest).map fun x => .number ('-' :: x.write)
    | _ => (readBinary64? digits).map fun x => .number x.write

mutual

/-- The normal form of an item that may open `depth` arrays and objects inside
each other. -/
def Value.item? : Value → Nat → Option Value
  | .null, _ => some .null
  | .bool b, _ => some (.bool b)
  | .number digits, _ => normalNumber? digits
  | .text s, _ => some (.text s)
  | .unreadable, _ => none
  | .array items, depth + 1 => (Value.itemList? items depth).map .array
  | .object members, depth + 1 => (Value.memberList? members depth).map .sorted
  | _, 0 => none

def Value.itemList? : List Value → Nat → Option (List Value)
  | [], _ => some []
  | v :: rest, depth =>
    match v.item? depth, Value.itemList? rest depth with
    | some v, some rest => some (v :: rest)
    | _, _ => none

def Value.memberList? : List (String × Value) → Nat → Option (List (String × Value))
  | [], _ => some []
  | (key, v) :: rest, depth =>
    match v.item? depth, Value.memberList? rest depth with
    | some v, some rest => some ((key, v) :: rest)
    | _, _ => none

end

end RecordSearch.Json
