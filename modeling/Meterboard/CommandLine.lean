import Meterboard.Double.Decimal
import Meterboard.Settings

/-!
# The command line

The program is started with options and at most one command.  Options may stand before or behind the
command; a command has operands and options of its own.

* `CommandLine`, `Command` — what a command line says.
* `CommandLine.Fault` — why a command line is refused.
* `CommandLine.parse` — read the words behind the program's name.

Words are read from left to right.  The value of an operand, or of an option that stands in the next
word, is checked only when the next one starts, so that an unknown word behind it is noticed first.
-/

namespace Meterboard

/-- What is to be done once, without the board. -/
inductive Command where
  /-- Print the variables that match a pattern. -/
  | list (pattern : String) (maxVariables? : Option UInt32) (maxAge? : Option String)
  /-- Print the values of a variable within a window. -/
  | get (name window : String) (maxVariables? maxValues? : Option UInt32)
      (transform? : Option Transform)
  /-- Add one sample. -/
  | add (name : String) (value : Double) (timestamp? : Option UInt64)
deriving DecidableEq

/-- What a command line says. -/
structure CommandLine where
  configFile? : Option String
  overrides : Settings.Overrides
  /-- Without a command the board is shown. -/
  command? : Option Command
deriving DecidableEq

namespace CommandLine

/-- Why a command line is refused, or a request for help, which ends the reading as well. -/
inductive Fault where
  | help
  | unknownArgument
  | unknownCommand
  | missingArgument
  | badValue
  /-- An option without a value, or with an empty one that may not be empty. -/
  | missingValue
  | repeatedOption
  /-- A value for an option that takes none. -/
  | surplusValue
deriving DecidableEq, Repr

/-- A fault in words. -/
def Fault.message : Fault → String
  | .help => "Browse and chart metrics from an instrument store"
  | .unknownArgument => "unexpected argument"
  | .unknownCommand => "unrecognized subcommand"
  | .missingArgument => "a required argument was not provided"
  | .badValue => "invalid value"
  | .missingValue => "a value is required"
  | .repeatedOption => "an argument cannot be used multiple times"
  | .surplusValue => "unexpected value"

/-- How the program is called. -/
def usage : List String :=
  ["Usage: [OPTIONS] [COMMAND]",
   "",
   "Commands:",
   "  list <PREFIX> [--max-variables N] [--max-age AGE]",
   "  get <VARIABLE> [-d DURATION] [--max-variables N] [--max-values N] [-t TRANSFORM]",
   "  add <VARIABLE> <VALUE> [--timestamp MS]",
   "",
   "Options: -c/--config FILE, --store URL, --timeout SECONDS, --log-file FILE, -h/--help"]

/-! ## Arguments -/

/-- Everything that can be given on a command line. -/
inductive Argument where
  | config
  | store
  | timeout
  | logFile
  | maxVariables
  | maxAge
  | window
  | maxValues
  | transform
  | timestamp
  | pattern
  | variable
  | value
deriving DecidableEq, Repr

/-- A natural number below a bound, with at most one plus sign. -/
def natural? (bound : Nat) (s : String) : Option Nat := do
  let n ← Text.unsigned? s.toList
  if n < bound then some n else none

/-- A count of 32 bits; a minus sign may stand before zero. -/
def count? (s : String) : Option UInt32 :=
  match s.toList with
  | '-' :: rest => if Text.natural? rest = some 0 then some 0 else none
  | _ => (natural? UInt32.size s).map Nat.toUInt32

/-- A time of 64 bits. -/
def time? (s : String) : Option UInt64 := (natural? UInt64.size s).map Nat.toUInt64

/-- Whether a text can be the value of an argument. -/
def Argument.check (a : Argument) (s : String) : Except Fault Unit :=
  let need (ok : Bool) : Except Fault Unit := if ok then .ok () else .error .badValue
  match a with
  | .config => if s.isEmpty then .error .missingValue else .ok ()
  | .logFile => if s.isEmpty then .error .missingValue else .ok ()
  | .timeout => need (natural? UInt64.size s).isSome
  | .maxVariables => need (count? s).isSome
  | .maxValues => need (count? s).isSome
  | .transform => need (Transform.named? s).isSome
  | .timestamp => need (time? s).isSome
  | .value => need (Double.parse? s).isSome
  | _ => .ok ()

/-- An option: its long name, perhaps a letter, and what it sets; help sets nothing. -/
structure Choice where
  long : String
  letter? : Option Char
  argument? : Option Argument

/-- The options and operands of the program or of one of its commands. -/
structure Layout where
  options : List Choice
  operands : List Argument
  required : List Argument
  /-- A word may be a command. -/
  hasCommands : Bool

/-- The options that stand on both sides of a command. -/
def everywhere : List Choice :=
  [⟨"config", some 'c', some .config⟩, ⟨"store", none, some .store⟩,
   ⟨"timeout", none, some .timeout⟩, ⟨"log-file", none, some .logFile⟩,
   ⟨"help", some 'h', none⟩]

/-- The commands. -/
inductive Verb where
  | list
  | get
  | add
deriving DecidableEq, Repr

/-- The command of a word. -/
def Verb.ofWord? : String → Option Verb
  | "list" => some .list
  | "get" => some .get
  | "add" => some .add
  | _ => none

/-- The layout of the program. -/
def program : Layout := ⟨everywhere, [], [], true⟩

/-- The layout of a command. -/
def Verb.layout : Verb → Layout
  | .list =>
      ⟨[⟨"max-variables", none, some .maxVariables⟩, ⟨"max-age", none, some .maxAge⟩]
        ++ everywhere, [.pattern], [.pattern], false⟩
  | .get =>
      ⟨[⟨"duration", some 'd', some .window⟩, ⟨"max-variables", none, some .maxVariables⟩,
        ⟨"max-values", none, some .maxValues⟩, ⟨"transform", some 't', some .transform⟩]
        ++ everywhere, [.variable], [.variable], false⟩
  | .add =>
      ⟨[⟨"timestamp", none, some .timestamp⟩] ++ everywhere, [.variable, .value],
        [.variable, .value], false⟩

/-! ## Reading words -/

/-- What has been read. -/
structure State where
  /-- The values that were checked. -/
  given : List (Argument × String)
  /-- The last argument with its value, if that was not checked yet; an option may still wait for
  its value. -/
  open? : Option (Argument × Option String)
  /-- The operands that are still to come. -/
  operands : List Argument
  /-- Two dashes were read, so that every word is an operand. -/
  plain : Bool

/-- The state before the first word. -/
def State.start (l : Layout) : State := ⟨[], none, l.operands, false⟩

/-- Take a value, which must be the argument's first. -/
def State.take (s : State) (a : Argument) (v : String) : Except Fault State := do
  if s.given.any (·.1 == a) then throw .repeatedOption
  a.check v
  return { s with given := s.given ++ [(a, v)] }

/-- Check what was left open. -/
def State.close (s : State) : Except Fault State :=
  match s.open? with
  | none => .ok s
  | some (_, none) => .error .missingValue
  | some (a, some v) => { s with open? := none }.take a v

/-- An option, with the value in the same word if there is one. -/
def State.option (s : State) (a : Argument) : Option String → Except Fault State
  | some v => do (← s.close).take a v
  | none => do return { ← s.close with open? := some (a, none) }

/-- A word that begins with two dashes. -/
def longOption (l : Layout) (s : State) (word : List Char) : Except Fault State := do
  let name := String.ofList (word.takeWhile (· ≠ '='))
  let value? :=
    match word.dropWhile (· ≠ '=') with
    | [] => none
    | _ :: v => some (String.ofList v)
  match l.options.find? (·.long == name) with
  | none => throw .unknownArgument
  | some ⟨_, _, some a⟩ => s.option a value?
  | some ⟨_, _, none⟩ =>
      if value?.isSome then throw .surplusValue
      let _ ← s.close
      throw .help

/-- A word that begins with one dash: a letter, and its value if there is more. -/
def letterOption (l : Layout) (s : State) (word : List Char) : Except Fault State := do
  match word with
  | [] => throw .unknownArgument
  | c :: rest =>
      let value? :=
        match rest with
        | [] => none
        | '=' :: v => some (String.ofList v)
        | v => some (String.ofList v)
      match l.options.find? (·.letter? == some c) with
      | none => throw .unknownArgument
      | some ⟨_, _, some a⟩ => s.option a value?
      | some ⟨_, _, none⟩ =>
          let _ ← s.close
          throw .help

/-- The help for a row of commands, of which only the first may be one. -/
def helpFor : List String → Fault
  | [] => .help
  | [w] => if (Verb.ofWord? w).isSome || w = "help" then .help else .unknownCommand
  | _ => .unknownCommand

/-- A word that stands for itself: an operand, or one word too many. -/
def operand (l : Layout) (s : State) (word : String) : Except Fault State := do
  match s.operands with
  | a :: rest =>
      let s ← s.close
      return { s with open? := some (a, some word), operands := rest }
  | [] =>
      let known := (Verb.ofWord? word).isSome || word = "help"
      throw (if l.hasCommands ∧ ¬ (s.plain ∧ known) then .unknownCommand else .unknownArgument)

/-- Read words up to a command, or all of them. -/
def readWords (l : Layout) : State → List String →
    Except Fault (State × Option (Verb × List String))
  | s, [] => .ok (s, none)
  | s, word :: rest => do
      let waits : Bool :=
        match s.open? with
        | some (_, none) => true
        | _ => false
      if s.plain then readWords l (← operand l s word) rest
      else
        let verb? := if l.hasCommands && !waits then Verb.ofWord? word else none
        match verb? with
        | some verb => return (s, some (verb, rest))
        | none =>
            if l.hasCommands && !waits && word == "help" then throw (helpFor rest)
            match word.toList with
            | ['-', '-'] => readWords l { s with plain := true } rest
            | '-' :: '-' :: name => readWords l (← longOption l s name) rest
            | '-' :: c :: more => readWords l (← letterOption l s (c :: more)) rest
            | _ =>
                match s.open? with
                | some (a, none) => readWords l { s with open? := some (a, some word) } rest
                | _ => readWords l (← operand l s word) rest

/-- Read all words of a command. -/
def readCommand (verb : Verb) (words : List String) : Except Fault (List (Argument × String)) := do
  let l := verb.layout
  let (s, _) ← readWords l (State.start l) words
  let s ← s.close
  if l.required.all fun a => s.given.any (·.1 == a) then return s.given
  else throw .missingArgument

/-! ## What was said -/

/-- The value of an argument. -/
def value? (given : List (Argument × String)) (a : Argument) : Option String :=
  (given.find? (·.1 == a)).map (·.2)

/-- The window of a query that names none. -/
def defaultWindow : String := "12h"

/-- The command that was given. -/
def commandOf (given : List (Argument × String)) : Verb → Command
  | .list =>
      .list ((value? given .pattern).getD "") ((value? given .maxVariables).bind count?)
        (value? given .maxAge)
  | .get =>
      .get ((value? given .variable).getD "") ((value? given .window).getD defaultWindow)
        ((value? given .maxVariables).bind count?) ((value? given .maxValues).bind count?)
        ((value? given .transform).bind Transform.named?)
  | .add =>
      .add ((value? given .variable).getD "")
        (((value? given .value).bind Double.parse?).getD Double.zero)
        ((value? given .timestamp).bind time?)

/-- Read the words behind the program's name.  An option behind the command wins over the same one
before it. -/
def parse (words : List String) : Except Fault CommandLine := do
  let (s, command?) ← readWords program (State.start program) words
  let behind ←
    match command? with
    | some (verb, rest) => readCommand verb rest
    | none => pure []
  let s ← s.close
  let given := behind ++ s.given
  return {
    configFile? := value? given .config
    overrides := ⟨value? given .store, (value? given .timeout).bind (natural? UInt64.size),
      value? given .logFile⟩
    command? := command?.map fun c => commandOf given c.1 }

end CommandLine

end Meterboard
