/-!
# UTF-8, with a replacement for what is not

Percent-encoded text may hold any bytes. Decoding turns well-formed sequences
into their characters and every maximal prefix of a well-formed sequence that
is cut short into one U+FFFD; a byte that starts no sequence is such a prefix
of its own.

The decoder is a machine over bytes. Between characters it is idle; inside one
it knows how many bytes are still to come, the bits gathered so far, and the
range that the next byte must lie in. The range is what rules out overlong
forms, surrogates and numbers above U+10FFFF after the second byte already, as
maximality requires.
-/

namespace RecordSearch.Text.Utf8

/-- The character that stands for bytes that are no character. -/
def replacement : Char := '\uFFFD'

/-- The bytes of a text. -/
def encode (cs : List Char) : List UInt8 :=
  cs.flatMap String.utf8EncodeChar

/-- What a decoder knows between two bytes. -/
inductive State
  | idle
  /-- `more + 1` bytes are missing, the next one from `low` to `high`. -/
  | inside (more : Nat) (bits : Nat) (low high : Nat)
deriving DecidableEq, Repr

/-- Starts a character with the byte `b`. -/
def start (b : Nat) : List Char × State :=
  if b < 0x80 then ([Char.ofNat b], .idle)
  else if b < 0xC2 then ([replacement], .idle)
  else if b < 0xE0 then ([], .inside 0 (b - 0xC0) 0x80 0xBF)
  else if b = 0xE0 then ([], .inside 1 0 0xA0 0xBF)
  else if b = 0xED then ([], .inside 1 0xD 0x80 0x9F)
  else if b < 0xF0 then ([], .inside 1 (b - 0xE0) 0x80 0xBF)
  else if b = 0xF0 then ([], .inside 2 0 0x90 0xBF)
  else if b = 0xF4 then ([], .inside 2 4 0x80 0x8F)
  else if b < 0xF5 then ([], .inside 2 (b - 0xF0) 0x80 0xBF)
  else ([replacement], .idle)

/-- One byte: the characters it completes, and the state after it. A byte that
does not continue a character ends it and starts the next. -/
def step : State → Nat → List Char × State
  | .idle, b => start b
  | .inside more bits low high, b =>
    if low ≤ b ∧ b ≤ high then
      let bits := bits * 64 + (b - 0x80)
      match more with
      | 0 => ([Char.ofNat bits], .idle)
      | more + 1 => ([], .inside more bits 0x80 0xBF)
    else
      let (cs, st) := start b
      (replacement :: cs, st)

/-- Decodes the bytes that come after the state `st` was reached. -/
def decodeFrom : State → List UInt8 → List Char
  | .idle, [] => []
  | .inside .., [] => [replacement]
  | st, b :: rest =>
    let (cs, st) := step st b.toNat
    cs ++ decodeFrom st rest

/-- The characters that bytes stand for. -/
def decode (bytes : List UInt8) : List Char :=
  decodeFrom .idle bytes

end RecordSearch.Text.Utf8
