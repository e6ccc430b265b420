import RecordSearch.Decimal.Binary64

/-!
# The shortest decimal of a floating-point number

Of the decimals to which a number is the nearest one, the shortest is chosen, and
of several the closest. Seventeen digits are always enough.

The search goes through the decimal grids from coarse to fine. On each it tries
the two neighbours of the number, which are the only points of the grid that
could be closest. A number is spelled with an exponent only if its first digit is
far from the point.
-/

namespace RecordSearch.Decimal

/-- The number `digits * 10 ^ exponent`. -/
structure Numeral where
  digits : Nat
  exponent : Int
deriving DecidableEq, Repr

namespace Binary64

/-- The least number from `k` on, but at most `k + fuel`, whose power of ten is
above the number. -/
def placeFrom (x : Binary64) (k : Int) : Nat → Int
  | 0 => k
  | fuel + 1 =>
    if x.toRatio.1 * Nat.pow 10 (-k).toNat < x.toRatio.2 * Nat.pow 10 k.toNat then k
    else x.placeFrom (k + 1) fuel

/-- How many digits the number has before the point: the least `k` for which it
is below `10 ^ k`. The binary logarithm tells it up to one. -/
def place (x : Binary64) : Int :=
  x.placeFrom (((Nat.log2 x.significand : Int) + x.exponent) * 30103 / 100000) 3

/-- Of the two neighbours of the number on the grid `10 ^ exponent`, those that
read back as the number, the closer one first, or the even one of two equally
close. -/
def candidates (x : Binary64) (exponent : Int) : List Numeral :=
  let num := x.toRatio.1 * Nat.pow 10 (-exponent).toNat
  let den := x.toRatio.2 * Nat.pow 10 exponent.toNat
  let below := num / den
  let pair := if roundDiv num den = below then [below, below + 1] else [below + 1, below]
  (pair.map (⟨·, exponent⟩)).filter fun d : Numeral => ofDecimal? d.digits d.exponent = some x

/-- The shortest decimal that reads back and has between `tried + 1` and
`tried + fuel` digits, or the exact value if there is none. -/
def shortestFrom (x : Binary64) (place : Int) (tried : Nat) : Nat → Numeral
  | 0 => ⟨x.toRatio.1 * Nat.pow 5 (-x.exponent).toNat, min x.exponent 0⟩
  | fuel + 1 =>
    match x.candidates (place - (tried + 1)) with
    | d :: _ => d
    | [] => x.shortestFrom place (tried + 1) fuel

/-- The shortest decimal that reads back as the number. -/
def shortest (x : Binary64) : Numeral :=
  if x.isZero then ⟨0, 0⟩ else x.shortestFrom x.place 0 17

/-- The least place of the first digit at which a number is written without an
exponent. -/
def leastPlainPlace : Int := -4

/-- The greatest place of the first digit at which a number is written without an
exponent. -/
def greatestPlainPlace : Int := 16

/-- Digits after the point. There is at least one. -/
def writeFraction : List Char → List Char
  | [] => ['.', '0']
  | digits => '.' :: digits

/-- An integer in decimal. -/
def writeInt (n : Int) : List Char :=
  if n < 0 then '-' :: Nat.toDigits 10 n.natAbs else Nat.toDigits 10 n.natAbs

/-- Spells the number `0.d₁d₂… * 10 ^ place` with a point or an exponent, by which
it can be told from an integer. -/
def writeAt (digits : List Char) (place : Int) : List Char :=
  if leastPlainPlace ≤ place ∧ place ≤ 0 then
    '0' :: writeFraction (List.replicate (-place).toNat '0' ++ digits)
  else if 0 < place ∧ place ≤ greatestPlainPlace then
    digits.take place.toNat ++ List.replicate (place.toNat - digits.length) '0' ++
      writeFraction (digits.drop place.toNat)
  else
    digits.take 1 ++ (if digits.length ≤ 1 then [] else '.' :: digits.drop 1) ++
      'e' :: writeInt (place - 1)

/-- Spells the shortest decimal of the number. -/
def write (x : Binary64) : List Char :=
  if x.isZero then ['0', '.', '0']
  else
    let digits := Nat.toDigits 10 x.shortest.digits
    writeAt digits (x.shortest.exponent + digits.length)

end Binary64

end RecordSearch.Decimal
