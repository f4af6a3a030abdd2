import Meterboard.Double
import Meterboard.Text

/-!
# Numbers in JSON texts

A JSON number is read into 64 bits.  Its first digits are taken as an unsigned 64-bit significand
and the digits that no longer fit only count; the significand is then scaled by one power of ten in
double arithmetic.  That is not always the nearest double, and what is too large for a double is
refused.

* `Json.Fault` — the ways in which a text fails to be the message that was asked for.
* `Json.Number` — a natural number, a negative whole number or a double.
* `Json.number` — read one off the front of a text.
* `Json.skipNumber` — read past one whose value does not matter, however large it is.
-/

namespace Meterboard.Json

/-- How a text fails to be the JSON form of a message. -/
inductive Fault where
  /-- It ends inside a value. -/
  | truncated
  /-- It breaks the grammar of JSON. -/
  | malformed
  /-- It is JSON, but of another shape, type or range. -/
  | mismatched
deriving DecidableEq, Repr

/-- A reader takes something off the front of a text, or fails. -/
abbrev Reader (α : Type) := StateT (List Char) (Except Fault) α

/-- Fail. -/
def fail {α : Type} (f : Fault) : Reader α := fun _ => .error f

/-- The next character, left in place. -/
def peek : Reader (Option Char) := fun s => .ok (s.head?, s)

/-- Drop the next character. -/
def drop : Reader Unit := fun s => .ok ((), s.tail)

/-- Take the next character. -/
def next : Reader (Option Char) := fun s => .ok (s.head?, s.tail)

/-- Take the digits at the front. -/
def digits : Reader (List Char) := fun s => .ok (s.takeWhile Char.isDigit, s.dropWhile Char.isDigit)

/-- The result of reading a number. -/
inductive Number where
  | natural (n : Nat)
  | negative (n : Nat)
  | double (x : Double)

/-- The largest significand. -/
def significandLimit : Nat := UInt64.size - 1

/-- As many digits as keep a significand within its limit, appended to it, and how many digits
remain. -/
def accumulate (significand : Nat) : List Char → Nat × List Char
  | [] => (significand, [])
  | c :: rest =>
      let longer := 10 * significand + Text.digitValue c
      if significandLimit < longer then (significand, c :: rest) else accumulate longer rest

/-- Scale by a power of ten, downward in steps that a double can hold.  Zero needs no scaling. -/
def scaleDown : Nat → Double → Nat → Double
  | 0, x, _ => x
  | fuel + 1, x, e =>
      if e ≤ 308 then x.div (Double.ofDecimal false 1 e)
      else if x.magnitude = 0 then x
      else scaleDown fuel (x.div (Double.ofDecimal false 1 308)) (e - 308)

/-- The double of a significand and a power of ten, unless it is too large. -/
def scaled (negative : Bool) (significand : Nat) (exponent : Int) : Reader Number := do
  let x := Double.ofNat significand
  let y ←
    match exponent with
    | .ofNat e =>
        if 308 < e then
          if x.magnitude = 0 then pure x else fail .malformed
        else
          let y := x.mul (Double.ofDecimal false 1 e)
          if y.isFinite then pure y else fail .malformed
    | .negSucc e => pure (scaleDown 8 x (e + 1))
  return .double (Double.ofMagnitude negative y.magnitude)

/-- The largest exponent that is counted out; a longer one means zero or too much. -/
def exponentLimit : Nat := Nat.pow 2 31 - 1

/-- The exponent after its mark, and with it the number. -/
def exponent (negative : Bool) (significand : Nat) (before : Int) : Reader Number := do
  let sign ← peek
  if sign = some '+' ∨ sign = some '-' then drop
  match ← peek with
  | none => fail .truncated
  | some c =>
      if !c.isDigit then fail .malformed
      let e := Text.valueOf (← digits)
      if exponentLimit < e then
        if significand ≠ 0 ∧ sign ≠ some '-' then fail .malformed
        return .double (Double.ofMagnitude negative 0)
      scaled negative significand (if sign = some '-' then before - e else before + e)

/-- What follows the digits of a number: an exponent or nothing. -/
def afterDigits (negative : Bool) (significand : Nat) (before : Int) : Reader Number := do
  match ← peek with
  | some 'e' => drop; exponent negative significand before
  | some 'E' => drop; exponent negative significand before
  | _ => scaled negative significand before

/-- The places behind the point: at least one digit. -/
def places (negative : Bool) (significand : Nat) (before : Int) : Reader Number := do
  let ds ← digits
  if ds.isEmpty then
    fail (if (← peek).isNone then .truncated else .malformed)
  let (s, rest) := accumulate significand ds
  afterDigits negative s (before - (ds.length - rest.length : Nat))

/-- A number without its sign. -/
def unsignedNumber (negative : Bool) : Reader Number := do
  match ← peek with
  | none => fail .truncated
  | some c =>
      if !c.isDigit then fail .malformed
      let ds ← digits
      if c = '0' ∧ 1 < ds.length then fail .malformed
      let (s, rest) := accumulate 0 ds
      let before : Int := rest.length
      match ← peek with
      | some '.' => drop; places negative s before
      | some 'e' => drop; exponent negative s before
      | some 'E' => drop; exponent negative s before
      | _ =>
          if !rest.isEmpty then scaled negative s before
          else if !negative then return .natural s
          else if s = 0 ∨ Nat.pow 2 63 < s then return .double (Double.ofRatio true s 1)
          else return .negative s

/-- A number. -/
def number : Reader Number := do
  if (← peek) = some '-' then
    drop
    unsignedNumber true
  else unsignedNumber false

/-- Digits, at least one. -/
def skipDigits : Reader Unit := do
  if (← digits).isEmpty then fail .malformed

/-- Read past an exponent, if there is one. -/
def skipExponent : Reader Unit := do
  let c ← peek
  if c = some 'e' ∨ c = some 'E' then
    drop
    let sign ← peek
    if sign = some '+' ∨ sign = some '-' then drop
    skipDigits

/-- Read past a number. -/
def skipNumber : Reader Unit := do
  if (← peek) = some '-' then drop
  let ds ← digits
  if ds.isEmpty then fail .malformed
  if ds.head? = some '0' ∧ 1 < ds.length then fail .malformed
  if (← peek) = some '.' then
    drop
    skipDigits
  skipExponent

end Meterboard.Json
