/-!
# Whole numbers in decimal

Page numbers and identifiers are read from text that people typed. The reader
takes one leading plus sign and any number of leading zeros, and nothing else
besides ASCII digits: no blanks, no grouping, no minus sign. A number above
the given bound is refused, never wrapped.
-/

namespace RecordSearch.Text

/-- The value of an ASCII digit. -/
def digitValue (c : Char) : Option Nat :=
  if '0' ≤ c ∧ c ≤ '9' then some (c.toNat - '0'.toNat) else none

/-- Reads digits onto the value `acc` of those already read. -/
def readDigits (acc : Nat) : List Char → Option Nat
  | [] => some acc
  | c :: rest =>
    match digitValue c with
    | some d => readDigits (10 * acc + d) rest
    | none => none

/-- One digit or more, and nothing else. -/
def readDecimal : List Char → Option Nat
  | [] => none
  | cs => readDigits 0 cs

/-- A decimal with an optional plus sign, of value at most `bound`. -/
def readBounded (bound : Nat) (cs : List Char) : Option Nat :=
  let digits := match cs with
    | '+' :: rest => rest
    | _ => cs
  (readDecimal digits).filter (· ≤ bound)

/-- Reads a 32-bit number. -/
def readUInt32 (s : String) : Option UInt32 :=
  (readBounded (UInt32.size - 1) s.toList).map UInt32.ofNat

/-- Reads a 64-bit number. -/
def readUInt64 (s : String) : Option UInt64 :=
  (readBounded (UInt64.size - 1) s.toList).map UInt64.ofNat

/-- The value of a hexadecimal digit, of either case. -/
def hexValue (n : Nat) : Option Nat :=
  if 0x30 ≤ n ∧ n ≤ 0x39 then some (n - 0x30)
  else if 0x41 ≤ n ∧ n ≤ 0x46 then some (n - 0x41 + 10)
  else if 0x61 ≤ n ∧ n ≤ 0x66 then some (n - 0x61 + 10)
  else none

/-- The hexadecimal digits of `n`, in lower case and without leading zeros. -/
def hexDigits (n : Nat) : List Char :=
  Nat.toDigits 16 n

end RecordSearch.Text
