/-!
# Arguments

The arguments of a program are options and positional arguments in any order.
An option is written `--name`, with its value as the next argument or after an
equals sign, or `-n`, with its value as the next argument or attached. Each
option is given at most once. After `--` all arguments are positional.

A value that is the next argument does not begin with a dash, unless it is a
dash alone.
-/

namespace RecordSearch.CommandLine

/-- An option that a command knows. -/
structure OptionSpec where
  name : String
  /-- A one-letter name. -/
  letter : Option Char
  /-- What its value must be like; none for an option without one. -/
  accepts : Option (String → Bool)

/-- What a command knows. -/
structure Grammar where
  options : List OptionSpec
  /-- The largest number of positional arguments, none for any number. -/
  positionals : Option Nat

/-- What was found in arguments. -/
structure Found where
  /-- The options given, with the value of those that have one. -/
  options : List (String × Option String)
  /-- The positional arguments in order. -/
  positionals : List String
deriving DecidableEq, Repr

/-- Why a command does not run. -/
inductive Stop
  | help
  | usage
deriving DecidableEq, Repr

namespace Found

def empty : Found := ⟨[], []⟩

def has (found : Found) (name : String) : Bool :=
  found.options.any (·.1 = name)

/-- The value of an option. -/
def value? (found : Found) (name : String) : Option String :=
  (found.options.lookup name).join

end Found

namespace Grammar

/-- Records an option. -/
def take (found : Found) (option : OptionSpec) (value : Option String) : Except Stop Found :=
  let fits := match option.accepts, value with
    | none, none => true
    | some accepts, some text => accepts text
    | _, _ => false
  if found.has option.name || !fits then .error .usage
  else .ok { found with options := found.options ++ [(option.name, value)] }

/-- Records a positional argument. -/
def takePositional (g : Grammar) (found : Found) (arg : String) : Except Stop Found :=
  if g.positionals.any (· ≤ found.positionals.length) then .error .usage
  else .ok { found with positionals := found.positionals ++ [arg] }

/-- How an argument is read. -/
inductive Shape
  | separator
  /-- An option by name, with what follows an equals sign. -/
  | long (name : String) (attached : Option String)
  /-- An option by letter, with what follows it. -/
  | short (letter : Char) (attached : List Char)
  | positional

/-- The shape of an argument. -/
def Shape.of (arg : String) : Shape :=
  match arg.toList with
  | ['-', '-'] => .separator
  | '-' :: '-' :: rest =>
    let name := String.ofList (rest.takeWhile (· ≠ '='))
    match rest.dropWhile (· ≠ '=') with
    | [] => .long name none
    | _ :: value => .long name (some (String.ofList value))
  | '-' :: letter :: rest => .short letter rest
  | _ => .positional

/-- The value attached to a letter; an equals sign in front is not part of it. -/
def attachedValue : List Char → Option String
  | [] => none
  | '=' :: rest => some (String.ofList rest)
  | rest => some (String.ofList rest)

/-- Reads an option with what is attached to it. The second component is an
option that waits for its value. -/
def readOption (found : Found) (option : OptionSpec) (attached : Option String) :
    Except Stop (Found × Option OptionSpec) :=
  match option.accepts, attached with
  | some _, none => .ok (found, some option)
  | _, _ => do return (← take found option attached, none)

/-- Reads arguments. `waiting` is an option whose value has to come next. With
`stopAtPositional` the first positional argument, and all after it, are left to
the caller. -/
def read (g : Grammar) (stopAtPositional : Bool) (found : Found) (waiting : Option OptionSpec) :
    List String → Except Stop (Found × List String)
  | [] => if waiting.isSome then .error .usage else .ok (found, [])
  | arg :: rest =>
    match Shape.of arg, waiting with
    | .positional, some option => do
      let found ← take found option (some arg)
      g.read stopAtPositional found none rest
    | _, some _ => .error .usage
    | .positional, none =>
      if stopAtPositional then .ok (found, arg :: rest)
      else do
        let found ← g.takePositional found arg
        g.read stopAtPositional found none rest
    | .separator, none =>
      if stopAtPositional then .error .usage
      else do
        let found ← rest.foldlM g.takePositional found
        return (found, [])
    | .long name attached, none =>
      if name = "help" && attached.isNone then .error .help
      else match g.options.find? (·.name = name) with
        | none => .error .usage
        | some option => do
          let (found, waiting) ← readOption found option attached
          g.read stopAtPositional found waiting rest
    | .short letter attached, none =>
      if letter = 'h' then .error .help
      else match g.options.find? (·.letter = some letter) with
        | none => .error .usage
        | some option => do
          let (found, waiting) ← readOption found option (attachedValue attached)
          g.read stopAtPositional found waiting rest

end Grammar

end RecordSearch.CommandLine
