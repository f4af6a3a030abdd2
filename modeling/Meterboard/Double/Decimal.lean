import Meterboard.Double.Shortest
import Meterboard.Text

/-!
# Doubles in decimal

How a double is written as text, and the decimal numbers that are read as one.  A value on the
command line has an optional point and exponent, or is one of the words for what is not finite.

* `Double.Style` — the choices a written form makes: where the exponent starts, whether a whole
  number keeps its `.0`, how ties go and what stands for numbers that are not finite.
* `Double.plain`, `Double.json` — the two styles: everyday text, and numbers inside a JSON text.
* `Double.fixed` — a fixed number of decimal places.
* `Double.parse?` — the nearest double to a text.
-/

namespace Meterboard.Double

/-! ## Writing -/

/-- A written form of doubles. -/
structure Style where
  /-- How the shortest digits are chosen when two are equally near. -/
  tie : Tie
  /-- The exponents of the leading digit that are written out in full; all of them if absent. -/
  positional? : Option (Int × Int)
  /-- Whether a whole number ends in `.0`. -/
  keepsPoint : Bool
  /-- What is written for a NaN. -/
  nan : String
  /-- What is written for the infinities, the negative one told by `true`. -/
  infinite : Bool → String

/-- Digits with a point among or beside them: the leading digit has the given exponent. -/
def positional (keepsPoint : Bool) (digits : List Char) (exponent : Int) : List Char :=
  match exponent with
  | .negSucc e => '0' :: '.' :: List.replicate e '0' ++ digits
  | .ofNat e =>
      let whole := digits.take (e + 1)
      let places := digits.drop (e + 1)
      let filled := whole ++ List.replicate (e + 1 - digits.length) '0'
      if places.isEmpty then filled ++ (if keepsPoint then ['.', '0'] else [])
      else filled ++ '.' :: places

/-- Digits with the point after the first and an exponent that always shows its sign. -/
def withExponent (digits : List Char) (exponent : Int) : List Char :=
  let significand :=
    match digits with
    | d :: [] => [d]
    | d :: rest => d :: '.' :: rest
    | [] => []
  significand ++ 'e' :: (if exponent < 0 then '-' else '+') :: Text.decimal exponent.natAbs

/-- The magnitude of a finite double in a style. -/
def magnitudeText (style : Style) (x : Double) : List Char :=
  if x.magnitude = 0 then positional style.keepsPoint ['0'] 0
  else
    let s := x.shortest style.tie
    let digits := Text.decimal s.digits
    let full :=
      match style.positional? with
      | none => true
      | some (low, high) => low ≤ s.exponent && s.exponent ≤ high
    if full then positional style.keepsPoint digits s.exponent else withExponent digits s.exponent

/-- A double in a style. -/
def text (style : Style) (x : Double) : String :=
  if x.isNaN then style.nan
  else if x.isFinite then
    String.ofList ((if x.isNegative then ['-'] else []) ++ x.magnitudeText style)
  else style.infinite x.isNegative

/-- Everyday text: never an exponent, no point after a whole number, ties upward. -/
def plain : Style where
  tie := .upward
  positional? := none
  keepsPoint := false
  nan := "NaN"
  infinite negative := if negative then "-inf" else "inf"

/-- Numbers in a JSON text: an exponent below a hundred-thousandth and from ten to the sixteenth
up, a point in every other number, ties to even; what is not finite has no number and is null. -/
def json : Style where
  tie := .toEven
  positional? := some (-5, 15)
  keepsPoint := true
  nan := "null"
  infinite _ := "null"

/-- A double with a fixed number of places, at least one: its exact value is rounded, ties to even,
and the sign of what rounds to zero stays. -/
def fixed (places : Nat) (x : Double) : String :=
  if x.isNaN then plain.nan
  else if x.isFinite then
    let one := Nat.pow 10 places
    let scaled := divEven (x.units * one) unitsPerOne
    String.ofList ((if x.isNegative then ['-'] else [])
      ++ Text.decimal (scaled / one) ++ '.' :: Text.padded places (scaled % one))
  else plain.infinite x.isNegative

/-! ## Reading -/

/-- An exponent, its sign aside: one or more digits. -/
def exponent? : List Char → Option Int
  | '-' :: s => (Text.natural? s).map fun n => -(n : Int)
  | '+' :: s => (Text.natural? s).map fun n => (n : Int)
  | s => (Text.natural? s).map fun n => (n : Int)

/-- The part from the exponent mark on; an absent exponent is zero. -/
def exponentPart? : List Char → Option Int
  | [] => some 0
  | c :: s => if c = 'e' ∨ c = 'E' then exponent? s else none

/-- An unsigned decimal: digits with at most one point among or beside them, at least one digit,
then at most one exponent. -/
def decimal? (s : List Char) : Option (Nat × Int) := do
  let whole := s.takeWhile Char.isDigit
  let rest := s.dropWhile Char.isDigit
  let (places, rest) :=
    match rest with
    | '.' :: r => (r.takeWhile Char.isDigit, r.dropWhile Char.isDigit)
    | r => ([], r)
  if whole.isEmpty && places.isEmpty then none
  let e ← exponentPart? rest
  return (Text.valueOf (whole ++ places), e - places.length)

/-- A number without its sign. -/
def unsigned? (negative : Bool) (s : List Char) : Option Double :=
  let word := String.ofList (s.map Char.toLower)
  if word = "nan" then some nan
  else if word = "inf" ∨ word = "infinity" then some (infinity negative)
  else (decimal? s).map fun d => ofDecimal negative d.1 d.2

/-- A number with at most one sign in front. -/
def parseChars? : List Char → Option Double
  | '-' :: s => unsigned? true s
  | '+' :: s => unsigned? false s
  | s => unsigned? false s

/-- The double a text stands for; blanks are not allowed. -/
def parse? (s : String) : Option Double := parseChars? s.toList

end Meterboard.Double
