import Meterboard.Text

/-!
# Durations

A window is typed and shown as a number with a unit letter (`12h`, `2w`, `90`) and kept as whole
seconds.

* `Duration.limit` — the most seconds a duration may have.
* `Duration.Unit` — the unit letters with their lengths.
* `Duration.read` — a text as seconds, with a mark that tells an exact reading from a best effort.
* `Duration.label?` — seconds as a text of one unit, rounded down.
-/

namespace Meterboard.Duration

/-- The most seconds a duration may have: durations travel as signed 64-bit integers. -/
def limit : Nat := Nat.pow 2 63 - 1

/-! ## Units -/

/-- The units a duration is written in. -/
inductive Unit where
  | second
  | minute
  | hour
  | day
  | week
  | year
deriving DecidableEq, Repr

/-- Seconds in one unit; a year has 365 days. -/
def Unit.seconds : Unit → Nat
  | .second => 1
  | .minute => 60
  | .hour => 60 * 60
  | .day => 24 * (60 * 60)
  | .week => 7 * (24 * (60 * 60))
  | .year => 365 * (24 * (60 * 60))

/-- The letter that marks a unit. -/
def Unit.letter : Unit → Char
  | .second => 's'
  | .minute => 'm'
  | .hour => 'h'
  | .day => 'd'
  | .week => 'w'
  | .year => 'y'

/-- The unit that a letter marks. -/
def Unit.ofLetter? : Char → Option Unit
  | 's' => some .second
  | 'm' => some .minute
  | 'h' => some .hour
  | 'd' => some .day
  | 'w' => some .week
  | 'y' => some .year
  | _ => none

/-- Every unit is found by its own letter. -/
theorem Unit.ofLetter?_letter (u : Unit) : Unit.ofLetter? u.letter = some u := by
  cases u <;> rfl

/-! ## Reading -/

/-- What a text says as a duration.  Only `exact` comes from the written form; `lenient` is the
leading integer of some other text (`12 hours` reads as 12 seconds), kept apart so that a caller
decides whether to trust it. -/
inductive Reading where
  | exact (seconds : Int)
  | lenient (seconds : Int)
  | unreadable
deriving DecidableEq, Repr

/-- The seconds that were read, however they were read. -/
def Reading.seconds? : Reading → Option Int
  | .exact s => some s
  | .lenient s => some s
  | .unreadable => none

/-- A reading is exact when the whole text was a number with or without a unit. -/
def Reading.isExact : Reading → Bool
  | .exact _ => true
  | _ => false

/-- The number and the unit of a text in the written form: digits, then at most one unit letter.
Without a letter the digits count seconds. -/
def written? (s : List Char) : Option (Nat × Unit) :=
  match Text.natural? s with
  | some n => some (n, .second)
  | none => do
      let unit ← Unit.ofLetter? (← s.getLast?)
      return (← Text.natural? s.dropLast, unit)

/-- The integer a text begins with: blanks, at most one sign, then as many digits as follow. -/
def leading? (s : List Char) : Option Int :=
  match Text.trimLeft s with
  | '-' :: rest => (magnitude? rest).map fun n => -(n : Int)
  | '+' :: rest => (magnitude? rest).map fun n => (n : Int)
  | rest => (magnitude? rest).map fun n => (n : Int)
where
  /-- The digits at the front, unless there are none or they pass the limit. -/
  magnitude? (s : List Char) : Option Nat := do
    let n ← Text.natural? (s.takeWhile Char.isDigit)
    if n ≤ limit then some n else none

/-- Read a text as a duration.  A number in the written form that passes the limit is unreadable:
its leading digits alone would be another duration than the one that was meant. -/
def readChars (s : List Char) : Reading :=
  match written? s with
  | some (n, unit) =>
      if n * unit.seconds ≤ limit then .exact (n * unit.seconds : Nat) else .unreadable
  | none =>
      match leading? s with
      | some n => .lenient n
      | none => .unreadable

/-- Read a text as a duration. -/
def read (s : String) : Reading := readChars s.toList

/-! ## Writing -/

/-- The unit in which a positive number of seconds is shown: the largest that fits once.  A year is
used only above a full year, so that exactly one year shows as 52 weeks. -/
def unitFor (seconds : Nat) : Unit :=
  if Unit.year.seconds < seconds then .year
  else if Unit.week.seconds ≤ seconds then .week
  else if Unit.day.seconds ≤ seconds then .day
  else if Unit.hour.seconds ≤ seconds then .hour
  else if Unit.minute.seconds ≤ seconds then .minute
  else .second

/-- A number of seconds as a text of one unit, rounded down to it; nothing for zero or less. -/
def label? (seconds : Int) : Option String :=
  match seconds with
  | .negSucc _ => none
  | .ofNat 0 => none
  | .ofNat n =>
      let unit := unitFor n
      some (String.ofList (Text.decimal (n / unit.seconds) ++ [unit.letter]))

end Meterboard.Duration
