import RecordSearch.CommandLine.Arguments
import RecordSearch.Text.Number

/-!
# Commands

What the program can be asked to do, and how it is asked. The options that all
commands share may be given before or after the command; after it they count
more.
-/

namespace RecordSearch.CommandLine

/-- What the program is asked to do. -/
inductive Command
  /-- Show what a query string means. -/
  | params (query : String)
  /-- Run the search of an address, and turn pages. -/
  | search (query fixture : String) (next previous : Nat) (json : Bool)
  /-- Replay typing with a time between keystrokes. -/
  | suggest (fixture : String) (interval : Nat) (keystrokes : List String)
  /-- Show the settings. -/
  | config (save : Bool)
deriving DecidableEq, Repr

/-- A command with the options that all commands share. -/
structure Invocation where
  command : Command
  settingsPath : Option String
  color : Bool
deriving DecidableEq, Repr

/-- A number that may have a sign, as long as its value is one of 32 bits. -/
def readSigned32 (s : String) : Option Nat :=
  match s.toList with
  | '-' :: rest => (Text.readDecimal rest).filter (· = 0)
  | cs => Text.readBounded (UInt32.size - 1) cs

/-- A number of 64 bits. -/
def read64 (s : String) : Option Nat :=
  Text.readBounded (UInt64.size - 1) s.toList

namespace OptionSpec

/-- An option without a value. -/
def flag (name : String) : OptionSpec :=
  ⟨name, none, none⟩

/-- An option whose value is a path, which is not empty. -/
def path (name : String) (letter : Option Char) : OptionSpec :=
  ⟨name, letter, some (· ≠ "")⟩

/-- An option whose value is a number. -/
def number (name : String) (read : String → Option Nat) : OptionSpec :=
  ⟨name, none, some fun s => (read s).isSome⟩

end OptionSpec

/-- The options that all commands share. -/
def sharedOptions : List OptionSpec :=
  [.path "config" none, .flag "no-color"]

/-- What stands before the command. -/
def topGrammar : Grammar :=
  ⟨sharedOptions, some 0⟩

/-- What a command takes; none if there is no such command. -/
def grammar? : String → Option Grammar
  | "params" => some ⟨sharedOptions, some 1⟩
  | "search" => some ⟨sharedOptions ++
      [.path "fixture" (some 'f'), .number "next" readSigned32,
       .number "previous" readSigned32, .flag "json"], some 1⟩
  | "suggest" => some ⟨sharedOptions ++
      [.path "fixture" (some 'f'), .number "interval-ms" read64], none⟩
  | "config" => some ⟨sharedOptions ++ [.flag "save"], some 0⟩
  | _ => none

/-- A number that an option gives, zero without it. -/
def numberOf (found : Found) (name : String) (read : String → Option Nat) : Nat :=
  ((found.value? name).bind read).getD 0

/-- The command that arguments make, if what it needs is there. -/
def Command.of? (name : String) (found : Found) : Option Command :=
  match name, found.positionals, found.value? "fixture" with
  | "params", [query], _ => some (.params query)
  | "search", [query], some fixture =>
    some (.search query fixture (numberOf found "next" readSigned32)
      (numberOf found "previous" readSigned32) (found.has "json"))
  | "suggest", key :: keys, some fixture =>
    some (.suggest fixture (numberOf found "interval-ms" read64) (key :: keys))
  | "config", _, _ => some (.config (found.has "save"))
  | _, _, _ => none

/-- Whether help can be had on a subject. -/
def isHelpSubject : List String → Bool
  | [] => true
  | [name] => name = "help" || (grammar? name).isSome
  | _ => false

/-- Reads the arguments of the program. -/
def Invocation.ofArguments (args : List String) : Except Stop Invocation := do
  let (before, rest) ← topGrammar.read true .empty none args
  match rest with
  | [] => throw .usage
  | "help" :: subject => throw (if isHelpSubject subject then .help else .usage)
  | name :: rest =>
    match grammar? name with
    | none => throw .usage
    | some grammar =>
      let (found, _) ← grammar.read false .empty none rest
      match Command.of? name found with
      | none => throw .usage
      | some command =>
        return {
          command
          settingsPath := (found.value? "config").or (before.value? "config")
          color := !(found.has "no-color" || before.has "no-color") }

end RecordSearch.CommandLine
