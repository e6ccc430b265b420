/-!
# Binary floating point

The finite numbers of the format that the floating-point standard calls binary64,
without their sign: a significand below 2^53 times a power of two not below
2^-1074. A number between two of them is rounded to the nearer one, and from the
middle to the one with the even significand. Too large a number has no nearest
one.

Everything is computed on natural numbers, so each operation is the exact one
followed by one rounding.
-/

namespace RecordSearch.Decimal

/-- The quotient of `num` and `den`, rounded to the nearer integer, and from the
middle to the even one. -/
def roundDiv (num den : Nat) : Nat :=
  let below := num / den
  let twice := 2 * (num % den)
  if twice < den || (twice == den && below % 2 == 0) then below else below + 1

/-- The number `significand * 2 ^ exponent`. -/
structure Binary64 where
  significand : Nat
  exponent : Int
deriving DecidableEq, Repr

namespace Binary64

/-- The least exponent. -/
def minExponent : Int := -1074

/-- The greatest exponent. -/
def maxExponent : Int := 971

def zero : Binary64 := ⟨0, minExponent⟩

instance : Inhabited Binary64 := ⟨zero⟩

def isZero (x : Binary64) : Bool :=
  x.significand == 0

/-- The fraction `num / den` with the power `2 ^ exponent` taken out. -/
def scaled (num den : Nat) (exponent : Int) : Nat × Nat :=
  (num * Nat.pow 2 (-exponent).toNat, den * Nat.pow 2 exponent.toNat)

/-- The exponent that leaves 53 bits before the point of a fraction, or the least
one. The lengths of the two numbers tell it up to one. -/
def exponentOf (num den : Nat) : Int :=
  let guess : Int := (Nat.log2 num : Int) - Nat.log2 den - 53
  let (n, d) := scaled num den guess
  max minExponent (if n / d < Nat.pow 2 53 then guess else guess + 1)

/-- The number nearest to a fraction. -/
def ofRatio? (num den : Nat) : Option Binary64 :=
  if num = 0 then some zero
  else
    let exponent := exponentOf num den
    let (n, d) := scaled num den exponent
    let significand := roundDiv n d
    let x : Binary64 := if significand < Nat.pow 2 53 then ⟨significand, exponent⟩
      else ⟨Nat.pow 2 52, exponent + 1⟩
    if x.exponent ≤ maxExponent then some x else none

/-- The number as a fraction. -/
def toRatio (x : Binary64) : Nat × Nat :=
  (x.significand * Nat.pow 2 x.exponent.toNat, Nat.pow 2 (-x.exponent).toNat)

/-- The number nearest to a sum. -/
def add? (x y : Binary64) : Option Binary64 :=
  ofRatio? (x.toRatio.1 * y.toRatio.2 + y.toRatio.1 * x.toRatio.2) (x.toRatio.2 * y.toRatio.2)

/-- The number nearest to a product. -/
def mul? (x y : Binary64) : Option Binary64 :=
  ofRatio? (x.toRatio.1 * y.toRatio.1) (x.toRatio.2 * y.toRatio.2)

/-- The number nearest to a quotient. -/
def div? (x y : Binary64) : Option Binary64 :=
  ofRatio? (x.toRatio.1 * y.toRatio.2) (x.toRatio.2 * y.toRatio.1)

/-- The number nearest to a natural number. -/
def ofNat? (n : Nat) : Option Binary64 :=
  ofRatio? n 1

/-- The number nearest to `digits * 10 ^ exponent`. -/
def ofDecimal? (digits : Nat) (exponent : Int) : Option Binary64 :=
  ofRatio? (digits * Nat.pow 10 exponent.toNat) (Nat.pow 10 (-exponent).toNat)

end Binary64

end RecordSearch.Decimal
