import RecordSearch.Text.Number

/-!
# The tokens of a JSON text

The scan is a machine over characters. Between tokens it is idle; inside a word,
a number or a string it holds what it has read of it, the latest character
first. Words and numbers end where a character comes that cannot continue them,
and only then is it asked whether they are a word or a number of JSON.

A code point beyond the first 65536 is escaped by two code units, a high and a
low one. A string in which one of them stands alone is a token, but no text.
-/

namespace RecordSearch.Json

/-- A token of JSON. -/
inductive Token
  | openArray
  | closeArray
  | openObject
  | closeObject
  | colon
  | comma
  | null
  | bool (b : Bool)
  | number (digits : List Char)
  /-- A string, with the text that it stands for. -/
  | text (s : Option String)
deriving DecidableEq, Repr

/-- What has been read of a string. -/
structure Reading where
  /-- The characters, the latest first. -/
  characters : List Char
  /-- A high unit that came last and waits for a low one. -/
  high : Option Nat
  /-- Whether some unit stands alone. -/
  broken : Bool
deriving DecidableEq, Repr

namespace Reading

def empty : Reading := ⟨[], none, false⟩

/-- Adds a character. A high unit before it stands alone. -/
def add (r : Reading) (c : Char) : Reading :=
  ⟨c :: r.characters, none, r.broken || r.high.isSome⟩

def isHigh (unit : Nat) : Bool := 0xD800 ≤ unit && unit < 0xDC00

def isLow (unit : Nat) : Bool := 0xDC00 ≤ unit && unit < 0xE000

/-- The code point of a high and a low unit. -/
def pair (high low : Nat) : Nat :=
  0x10000 + (high - 0xD800) * 0x400 + (low - 0xDC00)

/-- Adds a code unit. -/
def addUnit (r : Reading) (unit : Nat) : Reading :=
  if isHigh unit then { r with high := some unit, broken := r.broken || r.high.isSome }
  else if isLow unit then
    match r.high with
    | some high =>
      { r with characters := Char.ofNat (pair high unit) :: r.characters, high := none }
    | none => { r with broken := true }
  else r.add (Char.ofNat unit)

/-- The text of a string that ends here, if it is one. -/
def text? (r : Reading) : Option String :=
  if r.broken || r.high.isSome then none else some (String.ofList r.characters.reverse)

end Reading

/-- What a scan is in the middle of. Characters read are held in reverse. -/
inductive Scan
  | idle
  | word (read : List Char)
  | number (read : List Char)
  | text (read : Reading)
  /-- After a backslash. -/
  | escape (read : Reading)
  /-- Before the last `missing + 1` digits of a code unit, of which `value` is
  what the digits so far make. -/
  | codeUnit (read : Reading) (missing value : Nat)
deriving DecidableEq, Repr

namespace Token

def isSpace (c : Char) : Bool :=
  c == ' ' || c == '\t' || c == '\n' || c == '\r'

def isDigit (c : Char) : Bool :=
  '0' ≤ c && c ≤ '9'

def isLetter (c : Char) : Bool :=
  'a' ≤ c && c ≤ 'z'

/-- Whether a character can occur inside a number. -/
def continuesNumber (c : Char) : Bool :=
  isDigit c || c == '+' || c == '-' || c == '.' || c == 'e' || c == 'E'

/-- What may follow the digits of a number: nothing, or an exponent. -/
def isExponent : List Char → Bool
  | [] => true
  | c :: rest =>
    let digits := match rest with
      | '+' :: rest | '-' :: rest => rest
      | _ => rest
    (c == 'e' || c == 'E') && !digits.isEmpty && digits.all isDigit

/-- What may follow the whole part of a number: a fraction, an exponent, both,
or nothing. -/
def isFraction : List Char → Bool
  | '.' :: rest =>
    !(rest.takeWhile isDigit).isEmpty && isExponent (rest.dropWhile isDigit)
  | rest => isExponent rest

/-- Whether characters spell a number without its sign. The whole part has no
leading zero. -/
def isUnsigned : List Char → Bool
  | '0' :: rest => isFraction rest
  | c :: rest => isDigit c && isFraction (rest.dropWhile isDigit)
  | [] => false

/-- Whether characters spell a number. -/
def isNumber : List Char → Bool
  | '-' :: rest => isUnsigned rest
  | rest => isUnsigned rest

/-- The token of a word. -/
def ofWord? (letters : List Char) : Option Token :=
  if letters = ['n', 'u', 'l', 'l'] then some .null
  else if letters = ['t', 'r', 'u', 'e'] then some (.bool true)
  else if letters = ['f', 'a', 'l', 's', 'e'] then some (.bool false)
  else none

/-- The token of the characters of a number. -/
def ofNumber? (digits : List Char) : Option Token :=
  if isNumber digits then some (.number digits) else none

/-- The token of a mark. -/
def ofMark? : Char → Option Token
  | '[' => some .openArray
  | ']' => some .closeArray
  | '\x7b' => some .openObject
  | '\x7d' => some .closeObject
  | ':' => some .colon
  | ',' => some .comma
  | _ => none

/-- The character that one letter after a backslash stands for. -/
def ofEscape? : Char → Option Char
  | '"' => some '"'
  | '\\' => some '\\'
  | '/' => some '/'
  | 'b' => some '\x08'
  | 'f' => some '\x0C'
  | 'n' => some '\n'
  | 'r' => some '\r'
  | 't' => some '\t'
  | _ => none

end Token

namespace Scan

/-- Reads a character that begins a token or stands between two. -/
def begin? (c : Char) : Option (Scan × List Token) :=
  if Token.isSpace c then some (.idle, [])
  else if c = '"' then some (.text .empty, [])
  else if Token.isLetter c then some (.word [c], [])
  else if c = '-' || Token.isDigit c then some (.number [c], [])
  else (Token.ofMark? c).map fun mark => (.idle, [mark])

/-- Ends a token before the character `c`, and reads that. -/
def endBefore? (token : Option Token) (c : Char) : Option (Scan × List Token) :=
  match token, begin? c with
  | some token, some (scan, tokens) => some (scan, token :: tokens)
  | _, _ => none

/-- Reads one character: the scan after it and the tokens that it completes. -/
def step? (scan : Scan) (c : Char) : Option (Scan × List Token) :=
  match scan with
  | .idle => begin? c
  | .word read =>
    if Token.isLetter c then some (.word (c :: read), [])
    else endBefore? (Token.ofWord? read.reverse) c
  | .number read =>
    if Token.continuesNumber c then some (.number (c :: read), [])
    else endBefore? (Token.ofNumber? read.reverse) c
  | .text read =>
    if c = '"' then some (.idle, [.text read.text?])
    else if c = '\\' then some (.escape read, [])
    else if c.toNat < 0x20 then none
    else some (.text (read.add c), [])
  | .escape read =>
    if c = 'u' then some (.codeUnit read 3 0, [])
    else (Token.ofEscape? c).map fun e => (.text (read.add e), [])
  | .codeUnit read missing value =>
    match Text.hexValue c.toNat, missing with
    | none, _ => none
    | some d, 0 => some (.text (read.addUnit (16 * value + d)), [])
    | some d, missing + 1 => some (.codeUnit read missing (16 * value + d), [])

/-- The token that the end of the text completes, if it may end here. -/
def end? : Scan → Option (List Token)
  | .idle => some []
  | .word read => (Token.ofWord? read.reverse).map ([·])
  | .number read => (Token.ofNumber? read.reverse).map ([·])
  | _ => none

/-- Scans the rest of a text, after the tokens `read` of what came before, the
latest first. -/
def run? (scan : Scan) (read : List Token) : List Char → Option (List Token)
  | [] => scan.end?.map fun tokens => read.reverse ++ tokens
  | c :: rest =>
    match scan.step? c with
    | none => none
    | some (scan, tokens) => scan.run? (tokens.reverse ++ read) rest

end Scan

/-- The tokens of a text, unless some part of it is no token. -/
def Token.scan? (text : List Char) : Option (List Token) :=
  Scan.idle.run? [] text

end RecordSearch.Json
