import RecordSearch.Text.Number
import RecordSearch.Text.Utf8

/-!
# The form encoding of key-value pairs

The format `application/x-www-form-urlencoded` of the URL standard: pairs
separated by `&`, key and value by the first `=` of a pair. A plus sign is a
space and `%XX` is a byte; a percent sign that no two hexadecimal digits follow
stands for itself. The bytes of a component are UTF-8, with U+FFFD for what is
not.

Reading works on bytes, since all that has a meaning of its own in the format
is ASCII. Writing keeps letters, digits and `*-._`, writes a space as a plus
sign, and everything else as `%XX` in upper case.
-/

namespace RecordSearch.Urlencoded

open RecordSearch.Text

/-- Cuts a list at every occurrence of `sep`. -/
def split (sep : UInt8) : List UInt8 → List (List UInt8)
  | [] => [[]]
  | b :: rest =>
    if b = sep then [] :: split sep rest
    else match split sep rest with
      | [] => [[b]]
      | piece :: pieces => (b :: piece) :: pieces

/-- Plus signs read as spaces. -/
def plusToSpace (bytes : List UInt8) : List UInt8 :=
  bytes.map fun b => if b = 0x2B then 0x20 else b

/-- Reads every `%XX` as a byte and keeps all other bytes. -/
def percentDecode : List UInt8 → List UInt8
  | [] => []
  | [b] => [b]
  | [b, c] => [b, c]
  | b :: hi :: lo :: rest =>
    if b = 0x25 then
      match hexValue hi.toNat, hexValue lo.toNat with
      | some h, some l => UInt8.ofNat (16 * h + l) :: percentDecode rest
      | _, _ => b :: percentDecode (hi :: lo :: rest)
    else b :: percentDecode (hi :: lo :: rest)

/-- The text of a key or a value. -/
def readComponent (bytes : List UInt8) : String :=
  String.ofList (Utf8.decode (percentDecode (plusToSpace bytes)))

/-- The key and the value of one piece between separators. -/
def readPair (piece : List UInt8) : String × String :=
  (readComponent (piece.takeWhile (· != 0x3D)),
    readComponent ((piece.dropWhile (· != 0x3D)).drop 1))

/-- The pairs of an encoded text, in order; empty pieces are no pairs. -/
def read (s : List Char) : List (String × String) :=
  ((split 0x26 (Utf8.encode s)).filter (· ≠ [])).map readPair

/-- Whether a byte is written as the character it is. -/
def isKept (b : Nat) : Bool :=
  (0x30 ≤ b && b ≤ 0x39) || (0x41 ≤ b && b ≤ 0x5A) || (0x61 ≤ b && b ≤ 0x7A) ||
    b == 0x2A || b == 0x2D || b == 0x2E || b == 0x5F

/-- The upper-case hexadecimal digit of a number below sixteen. -/
def hexDigit (n : Nat) : Char :=
  Char.ofNat (if n < 10 then 0x30 + n else 0x41 + (n - 10))

/-- The written form of one byte. -/
def writeByte (b : UInt8) : List Char :=
  if b = 0x20 then ['+']
  else if isKept b.toNat then [Char.ofNat b.toNat]
  else ['%', hexDigit (b.toNat / 16), hexDigit (b.toNat % 16)]

/-- The written form of a key or a value. -/
def writeComponent (s : String) : List Char :=
  (Utf8.encode s.toList).flatMap writeByte

/-- A key, an equals sign and a value. -/
def writePair (pair : String × String) : List Char :=
  writeComponent pair.1 ++ '=' :: writeComponent pair.2

/-- The written form of pairs, joined by `&`. -/
def write : List (String × String) → List Char
  | [] => []
  | [pair] => writePair pair
  | pair :: rest => writePair pair ++ '&' :: write rest

end RecordSearch.Urlencoded
