import RecordSearch.Json.Token
import RecordSearch.Json.Value

/-!
# Reading JSON

From tokens to a value, by a machine over tokens. It keeps a stack of the
arrays and objects that are open, innermost first, and what it needs next.
Nesting costs no recursion, so a text may be nested to any depth.
-/

namespace RecordSearch.Json

/-- An array or an object that is still open; its content in reverse. -/
inductive Frame
  | array (items : List Value)
  | object (members : List (Option String × Value))
  /-- An object that has the key of its next member, but not the value. -/
  | member (members : List (Option String × Value)) (key : Option String)

/-- What may come next. -/
inductive Need
  | value
  /-- The first item of an array, or its end. -/
  | itemOrEnd
  /-- The first key of an object, or its end. -/
  | keyOrEnd
  | key
  | colon
  /-- A comma, or the end of what is open. -/
  | separator
  /-- Nothing: the value is complete. -/
  | nothing (v : Value)

/-- The state of a reader. -/
structure Reader where
  stack : List Frame
  need : Need

namespace Reader

/-- Puts a complete value where it belongs. -/
def deliver (v : Value) : List Frame → Option Reader
  | [] => some ⟨[], .nothing v⟩
  | .array items :: stack => some ⟨.array (v :: items) :: stack, .separator⟩
  | .member members key :: stack => some ⟨.object ((key, v) :: members) :: stack, .separator⟩
  | .object _ :: _ => none

/-- Closes the innermost open frame, which must be an array. -/
def closeArray : List Frame → Option Reader
  | .array items :: stack => deliver (.array items.reverse) stack
  | _ => none

/-- Closes the innermost open frame, which must be an object. -/
def closeObject : List Frame → Option Reader
  | .object members :: stack => deliver (.ofMembers members.reverse) stack
  | _ => none

/-- Reads a token that begins a value. -/
def beginValue (stack : List Frame) : Token → Option Reader
  | .null => deliver .null stack
  | .bool b => deliver (.bool b) stack
  | .number digits => deliver (.number digits) stack
  | .text s => deliver (.ofOptionText s) stack
  | .openArray => some ⟨.array [] :: stack, .itemOrEnd⟩
  | .openObject => some ⟨.object [] :: stack, .keyOrEnd⟩
  | _ => none

/-- Reads a token that must be a key. -/
def beginMember (stack : List Frame) : Token → Option Reader
  | .text key =>
    match stack with
    | .object members :: stack => some ⟨.member members key :: stack, .colon⟩
    | _ => none
  | _ => none

/-- Reads a token that comes after a complete item or member. -/
def afterValue (stack : List Frame) : Token → Option Reader
  | .comma =>
    match stack with
    | .array _ :: _ => some ⟨stack, .value⟩
    | .object _ :: _ => some ⟨stack, .key⟩
    | _ => none
  | .closeArray => closeArray stack
  | .closeObject => closeObject stack
  | _ => none

/-- Reads one token. -/
def step? (r : Reader) (t : Token) : Option Reader :=
  match r.need with
  | .value => beginValue r.stack t
  | .itemOrEnd => if t = .closeArray then closeArray r.stack else beginValue r.stack t
  | .keyOrEnd => if t = .closeObject then closeObject r.stack else beginMember r.stack t
  | .key => beginMember r.stack t
  | .colon => if t = .colon then some ⟨r.stack, .value⟩ else none
  | .separator => afterValue r.stack t
  | .nothing _ => none

/-- Reads tokens one after another. -/
def run? (r : Reader) : List Token → Option Reader
  | [] => some r
  | t :: rest => match r.step? t with
    | none => none
    | some r => r.run? rest

end Reader

/-- The value that tokens spell. -/
def Value.ofTokens? (tokens : List Token) : Option Value :=
  match Reader.run? ⟨[], .value⟩ tokens with
  | some ⟨_, .nothing v⟩ => some v
  | _ => none

/-- Reads a JSON text: one value, with nothing but white space around it. -/
def Value.parse? (s : String) : Option Value :=
  (Token.scan? s.toList).bind Value.ofTokens?

end RecordSearch.Json
