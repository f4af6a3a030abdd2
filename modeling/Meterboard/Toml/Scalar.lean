import Meterboard.Double.Decimal
import Meterboard.Text

/-!
# Single values of TOML

* `Toml.Value` — the values of a TOML text.
* `Toml.Reader` — takes something off the front of a text, or refuses it.
* `Toml.number?` — a word as an integer or a float.
* `Toml.date?` — a word as a date, a time or both, in its normal form.
* `Toml.string` — a text between quotes of any of the four sorts.
-/

namespace Meterboard.Toml

/-- A value of a TOML text.  The entries of a table keep the order of the text. -/
inductive Value where
  | text (s : String)
  | flag (b : Bool)
  | integer (n : Int)
  | float (x : Double)
  /-- A date, a time or both, in its normal form. -/
  | date (s : String)
  | list (items : List Value)
  | table (entries : List (String × Value))
deriving Inhabited

/-- Takes something off the front of a text. -/
abbrev Reader (α : Type) := StateT (List Char) Option α

/-- Refuse the text. -/
def refuse {α : Type} : Reader α := fun _ => none

/-- The next character, left in place. -/
def peek : Reader (Option Char) := fun s => some (s.head?, s)

/-- Drop so many characters. -/
def skip (n : Nat) : Reader Unit := fun s => some ((), s.drop n)

/-- The next character. -/
def next : Reader Char := fun s =>
  match s with
  | [] => none
  | c :: rest => some (c, rest)

/-- The characters at the front that satisfy a test. -/
def takeWhile (p : Char → Bool) : Reader (List Char) := fun s =>
  some (s.takeWhile p, s.dropWhile p)

/-- Whether the text goes on with these characters; if so, drop them. -/
def accept (front : List Char) : Reader Bool := fun s =>
  if front.isPrefixOf s then some (true, s.drop front.length) else some (false, s)

/-- The text has to go on with these characters. -/
def expect (front : List Char) : Reader Unit := do
  if !(← accept front) then refuse

/-! ## Numbers -/

/-- Digits with single underscores between them, without the underscores. -/
def joined? (isDigit : Char → Bool) : List Char → Option (List Char)
  | [] => none
  | [c] => if isDigit c then some [c] else none
  | c :: '_' :: rest =>
      if isDigit c then (joined? isDigit rest).map (c :: ·) else none
  | c :: rest => if isDigit c then (joined? isDigit rest).map (c :: ·) else none

/-- Digits of a decimal number, without a zero in front of others. -/
def decimalDigits? (s : List Char) : Option (List Char) := do
  let ds ← joined? Char.isDigit s
  if ds.head? = some '0' ∧ 1 < ds.length then none else some ds

/-- The number of digits in a base. -/
def inBase? (base : Nat) (s : List Char) : Option Nat := do
  let isDigit (c : Char) : Bool := (Text.hexValue? c).any (· < base)
  let ds ← joined? isDigit s
  return ds.foldl (fun n c => base * n + (Text.hexValue? c).getD 0) 0

/-- The range of integers. -/
def inRange (n : Int) : Bool :=
  Int64.minValue.toInt ≤ n && n ≤ Int64.maxValue.toInt

/-- A sign and what follows it. -/
def splitSign (s : List Char) : Bool × List Char :=
  match s with
  | '-' :: rest => (true, rest)
  | '+' :: rest => (false, rest)
  | s => (false, s)

/-- An integer. -/
def integer? (s : List Char) : Option Int := do
  let n : Int ←
    match s with
    | '0' :: 'x' :: rest => (inBase? 16 rest).map Int.ofNat
    | '0' :: 'o' :: rest => (inBase? 8 rest).map Int.ofNat
    | '0' :: 'b' :: rest => (inBase? 2 rest).map Int.ofNat
    | s => do
        let (negative, digits) := splitSign s
        let n := Text.valueOf (← decimalDigits? digits)
        pure (if negative then -(n : Int) else (n : Int))
  if inRange n then some n else none

/-- A float without its sign: digits, then places or an exponent or both. -/
def unsignedFloat? (negative : Bool) (s : List Char) : Option Double := do
  let isMark (c : Char) : Bool := c = 'e' || c = 'E'
  let significand := s.takeWhile (!isMark ·)
  let exponent := s.dropWhile (!isMark ·)
  let whole ← decimalDigits? (significand.takeWhile (· ≠ '.'))
  let places ←
    match significand.dropWhile (· ≠ '.') with
    | [] => some []
    | _ :: rest => joined? Char.isDigit rest
  let e : Int ←
    match exponent with
    | [] => some 0
    | _ :: rest => do
        let (down, digits) := splitSign rest
        let n := Text.valueOf (← joined? Char.isDigit digits)
        pure (if down then -(n : Int) else (n : Int))
  if places.isEmpty && exponent.isEmpty then none
  let x := Double.ofDecimal negative (Text.valueOf (whole ++ places)) (e - places.length)
  if x.isFinite then some x else none

/-- A float. -/
def float? (s : List Char) : Option Double :=
  let (negative, rest) := splitSign s
  if rest = ['i', 'n', 'f'] then some (Double.infinity negative)
  else if rest = ['n', 'a', 'n'] then some Double.nan
  else unsignedFloat? negative rest

/-- A word that is a number. -/
def number? (s : List Char) : Option Value :=
  match integer? s with
  | some n => some (.integer n)
  | none => (float? s).map .float

/-! ## Dates -/

/-- A number of exactly so many digits, within bounds. -/
def field? (width low high : Nat) (s : List Char) : Option (List Char × List Char) := do
  let front := s.take width
  if front.length ≠ width then none
  let n ← Text.natural? front
  if low ≤ n ∧ n ≤ high then some (front, s.drop width) else none

/-- A character that has to come next. -/
def mark? (c : Char) (s : List Char) : Option (List Char) :=
  match s with
  | d :: rest => if c = d then some rest else none
  | [] => none

/-- Days of a month. -/
def daysIn (year month : Nat) : Nat :=
  if month = 2 then
    (if year % 4 = 0 ∧ (year % 100 ≠ 0 ∨ year % 400 = 0) then 29 else 28)
  else if month = 4 ∨ month = 6 ∨ month = 9 ∨ month = 11 then 30
  else 31

/-- Year, month and day. -/
def dayPart? (s : List Char) : Option (List Char × List Char) := do
  let (year, s) ← field? 4 0 9999 s
  let (month, s) ← field? 2 1 12 (← mark? '-' s)
  let (day, s) ← field? 2 1 (daysIn (Text.valueOf year) (Text.valueOf month)) (← mark? '-' s)
  return (year ++ '-' :: month ++ '-' :: day, s)

/-- Hours, minutes and seconds, with a fraction of at most nine places that count. -/
def clockPart? (s : List Char) : Option (List Char × List Char) := do
  let (hour, s) ← field? 2 0 23 s
  let (minute, s) ← field? 2 0 59 (← mark? ':' s)
  let (second, s) ← field? 2 0 60 (← mark? ':' s)
  let clock := hour ++ ':' :: minute ++ ':' :: second
  match s with
  | '.' :: rest =>
      let places := rest.takeWhile Char.isDigit
      if places.isEmpty then none
      let shown := ((places.take 9).reverse.dropWhile (· = '0')).reverse
      return (clock ++ (if shown.isEmpty then [] else '.' :: shown), rest.dropWhile Char.isDigit)
  | s => return (clock, s)

/-- The distance from universal time. -/
def offsetPart? (s : List Char) : Option (List Char) := do
  match s with
  | [] => return []
  | ['Z'] => return ['Z']
  | ['z'] => return ['Z']
  | c :: rest =>
      if c ≠ '+' ∧ c ≠ '-' then none
      let (hour, s) ← field? 2 0 23 rest
      let (minute, s) ← field? 2 0 59 (← mark? ':' s)
      if s.isEmpty then some (c :: hour ++ ':' :: minute) else none

/-- A word that is a date, a time or both. -/
def date? (s : List Char) : Option Value := do
  match dayPart? s with
  | none =>
      let (clock, rest) ← clockPart? s
      if rest.isEmpty then some (.date (String.ofList clock)) else none
  | some (day, []) => return .date (String.ofList day)
  | some (day, c :: rest) =>
      if c ≠ 'T' ∧ c ≠ 't' ∧ c ≠ ' ' then none
      let (clock, rest) ← clockPart? rest
      return .date (String.ofList (day ++ 'T' :: clock ++ (← offsetPart? rest)))

/-! ## Text -/

/-- A control character that no text and no comment may hold. -/
def isControl (c : Char) : Bool := (c.toNat < 0x20 && c ≠ '\t') || c.toNat = 0x7F

/-- A code of so many hexadecimal digits as a character. -/
def codePoint (width : Nat) : Reader Char := fun s => do
  let front := s.take width
  if front.length ≠ width then none
  let n ← Text.hexNatural? front
  if n < 0xD800 ∨ (0xDFFF < n ∧ n < 0x110000) then some (Char.ofNat n, s.drop width) else none

/-- One escape after its backslash. -/
def escape : Reader Char := do
  match ← next with
  | 'b' => return '\x08'
  | 't' => return '\t'
  | 'n' => return '\n'
  | 'f' => return '\x0c'
  | 'r' => return '\r'
  | '"' => return '"'
  | '\\' => return '\\'
  | 'u' => codePoint 4
  | 'U' => codePoint 8
  | _ => refuse

/-- The rest of a text on one line. -/
def line (quote : Char) : Nat → Reader (List Char)
  | 0 => refuse
  | fuel + 1 => do
      let c ← next
      if c = quote then return []
      if c = '\\' ∧ quote = '"' then
        let d ← escape
        return d :: (← line quote fuel)
      if isControl c then refuse
      return c :: (← line quote fuel)

/-- Blanks and line ends. -/
def isGap (c : Char) : Bool := c = ' ' || c = '\t' || c = '\n' || c = '\r'

/-- After a backslash at the end of a line: the blanks up to the next text, with at least one line
end among them. -/
def lineBreak : Reader Unit := fun s => do
  match s.dropWhile fun c => c = ' ' || c = '\t' with
  | '\n' :: rest => some ((), rest.dropWhile isGap)
  | '\r' :: '\n' :: rest => some ((), rest.dropWhile isGap)
  | _ => none

/-- The quotes at the end of a text over several lines: up to two of them belong to the text. -/
def closing (quote : Char) : Reader (Option (List Char)) := fun s =>
  let n := (s.takeWhile (· = quote)).length
  if n < 3 then some (none, s)
  else if n ≤ 5 then some (some (List.replicate (n - 3) quote), s.drop n)
  else none

/-- The rest of a text over several lines.  A line end of two characters counts as one. -/
def lines (quote : Char) : Nat → Reader (List Char)
  | 0 => refuse
  | fuel + 1 => do
      match ← closing quote with
      | some rest => return rest
      | none =>
          let c ← next
          if c = '\\' ∧ quote = '"' then
            match ← peek with
            | some d =>
                if isGap d then
                  lineBreak
                  lines quote fuel
                else
                  let e ← escape
                  return e :: (← lines quote fuel)
            | none => refuse
          else if c = '\r' then
            expect ['\n']
            return '\n' :: (← lines quote fuel)
          else if c ≠ '\n' ∧ isControl c then refuse
          else return c :: (← lines quote fuel)

/-- A text between quotes of one sort.  A line end right behind three quotes is not part of it. -/
def quotedBy (quote : Char) : Reader String := do
  let fuel := (← get).length + 1
  if ← accept [quote, quote, quote] then
    if !(← accept ['\n']) then
      let _ ← accept ['\r', '\n']
    return String.ofList (← lines quote fuel)
  else
    expect [quote]
    return String.ofList (← line quote fuel)

/-- A text between quotes on one line. -/
def quotedLine (quote : Char) : Reader String := do
  let fuel := (← get).length + 1
  expect [quote]
  return String.ofList (← line quote fuel)

/-- A text between quotes. -/
def string : Reader String := do
  match ← peek with
  | some '"' => quotedBy '"'
  | some '\'' => quotedBy '\''
  | _ => refuse

end Meterboard.Toml
