/-!
# Doubles by their bits

Sample values travel as 64-bit binary floating-point numbers and have to come back bit for bit, the
payload of a NaN included.  A `Double` is therefore its bit pattern.  Orders and rounding are stated
on integers read off the bits; sums and products go through the machine's own operations.

* `Double.units` — the magnitude of a finite double as a whole number of its smallest steps.
* `Double.key`, `Double.lt`, `Double.le` — the numeric order; nothing compares with a NaN.
* `Double.min`, `Double.max` — the smaller and the larger of two, where a NaN gives way.
* `Double.ofRatio`, `Double.ofNat` — the nearest double, ties to the even one.
* `Double.round`, `Double.truncate`, `Double.truncateUnsigned` — to a whole number, and to a signed
  or an unsigned 64-bit integer.
-/

namespace Meterboard

/-- A 64-bit binary floating-point number, given by its bits. -/
structure Double where
  bits : UInt64
deriving DecidableEq, Inhabited

namespace Double

/-! ## Parts of the bit pattern -/

/-- The pattern without its sign bit. -/
def magnitude (x : Double) : Nat := x.bits.toNat % Nat.pow 2 63

/-- The magnitude of the infinities; all above it are NaNs. -/
def infiniteMagnitude : Nat := 0x7FF * Nat.pow 2 52

/-- The sign bit is set. -/
def isNegative (x : Double) : Bool := Nat.pow 2 63 ≤ x.bits.toNat

/-- Not a number. -/
def isNaN (x : Double) : Bool := infiniteMagnitude < x.magnitude

/-- A number that is not infinite. -/
def isFinite (x : Double) : Bool := x.magnitude < infiniteMagnitude

/-- A pattern from its sign and its magnitude. -/
def ofMagnitude (negative : Bool) (magnitude : Nat) : Double :=
  ⟨((if negative then Nat.pow 2 63 else 0) + magnitude).toUInt64⟩

/-- Zero. -/
def zero : Double := ⟨0⟩

/-- One. -/
def one : Double := ⟨0x3FF0000000000000⟩

/-- The NaN that arithmetic yields. -/
def nan : Double := ⟨0x7FF8000000000000⟩

/-- Positive or negative infinity. -/
def infinity (negative : Bool) : Double := ofMagnitude negative infiniteMagnitude

/-- The significand and the exponent of two, counted from the smallest step: a finite double is
`significand * 2 ^ exponent` smallest steps. -/
def significand (x : Double) : Nat :=
  if x.magnitude < Nat.pow 2 52 then x.magnitude else Nat.pow 2 52 + x.magnitude % Nat.pow 2 52

/-- See `significand`. -/
def exponent (x : Double) : Nat := x.magnitude / Nat.pow 2 52 - 1

/-- The magnitude of a finite double, in steps of the smallest positive one. -/
def units (x : Double) : Nat := x.significand * Nat.pow 2 x.exponent

/-- How many smallest steps make one. -/
def unitsPerOne : Nat := Nat.pow 2 1074

/-! ## Order -/

/-- An integer that orders the doubles that are numbers; both zeros have the key zero. -/
def key (x : Double) : Int := if x.isNegative then -x.magnitude else x.magnitude

/-- Less than, as numbers; false when either is a NaN. -/
def lt (a b : Double) : Bool := !a.isNaN && !b.isNaN && decide (a.key < b.key)

/-- At most, as numbers; false when either is a NaN. -/
def le (a b : Double) : Bool := !a.isNaN && !b.isNaN && decide (a.key ≤ b.key)

/-- The smaller of two; a NaN gives way, and of two equal ones the first stays. -/
def min (a b : Double) : Double :=
  if a.isNaN then b else if b.lt a then b else a

/-- The larger of two; a NaN gives way, and of two equal ones the first stays. -/
def max (a b : Double) : Double :=
  if a.isNaN then b else if a.lt b then b else a

/-! ## Nearest doubles -/

/-- The quotient of two positive numbers, rounded to the nearest whole, ties to even. -/
def divEven (num den : Nat) : Nat :=
  let q := num / den
  let twice := 2 * (num % den)
  if twice < den then q
  else if den < twice then q + 1
  else q + q % 2

/-- The quotient of two positive numbers, rounded to the nearest whole, ties away from zero. -/
def divAway (num den : Nat) : Nat := (2 * num + den) / (2 * den)

/-- The power of two at or below the quotient of two positive numbers. -/
def floorLog2 (num den : Nat) : Int :=
  let guess : Int := (num.log2 : Int) - den.log2
  let reached : Bool :=
    match guess with
    | .ofNat k => den * Nat.pow 2 k ≤ num
    | .negSucc k => den ≤ num * Nat.pow 2 (k + 1)
  if reached then guess else guess - 1

/-- The magnitude of the double nearest to `num / den`, ties to the even one.  Beyond the largest
finite double it is infinite. -/
def nearestMagnitude (num den : Nat) : Nat :=
  if num = 0 then 0
  else
    let step := (floorLog2 num den - 52 + 1074).toNat
    let m := step * Nat.pow 2 52 + divEven (num * unitsPerOne) (den * Nat.pow 2 step)
    if infiniteMagnitude ≤ m then infiniteMagnitude else m

/-- The double nearest to `num / den` with a sign. -/
def ofRatio (negative : Bool) (num den : Nat) : Double :=
  ofMagnitude negative (nearestMagnitude num den)

/-- The double nearest to a natural number. -/
def ofNat (n : Nat) : Double := ofRatio false n 1

/-- The double nearest to `digits * 10 ^ exponent`.  Exponents so large or so small that only
infinity or zero can be meant are not multiplied out. -/
def ofDecimal (negative : Bool) (digits : Nat) (exponent : Int) : Double :=
  if digits = 0 then ofMagnitude negative 0
  else if 400 < exponent then infinity negative
  else
    match exponent with
    | .ofNat e => ofRatio negative (digits * Nat.pow 10 e) 1
    | .negSucc e =>
        if digits.log2 + 1100 < 3 * (e + 1) then ofMagnitude negative 0
        else ofRatio negative digits (Nat.pow 10 (e + 1))

/-! ## Whole numbers -/

/-- The nearest whole number, halves away from zero; the sign stays, on zero too. -/
def round (x : Double) : Double :=
  if x.isFinite then ofRatio x.isNegative (divAway x.units unitsPerOne) 1 else x

/-- The whole part as a signed 64-bit integer: what lies beyond is clamped, and a NaN is zero. -/
def truncate (x : Double) : Int :=
  if x.isNaN then 0
  else
    let limit := Nat.pow 2 63
    let whole := if x.isFinite then x.units / unitsPerOne else limit
    if x.isNegative then -(Nat.min whole limit : Nat) else (Nat.min whole (limit - 1) : Nat)

/-- The whole part as an unsigned 64-bit integer: what lies beyond is clamped, and a NaN is zero. -/
def truncateUnsigned (x : Double) : Nat :=
  if x.isNaN || x.isNegative then 0
  else
    let limit := UInt64.size - 1
    if x.isFinite then Nat.min (x.units / unitsPerOne) limit else limit

/-! ## Arithmetic -/

/-- The same number as the machine's floating-point type has it. -/
def toFloat (x : Double) : Float := Float.ofBits x.bits

/-- The bits of a machine number. -/
def ofFloat (x : Float) : Double := ⟨x.toBits⟩

/-- Sum, rounded to nearest. -/
def add (a b : Double) : Double := ofFloat (a.toFloat + b.toFloat)

/-- Difference, rounded to nearest. -/
def sub (a b : Double) : Double := ofFloat (a.toFloat - b.toFloat)

/-- Product, rounded to nearest. -/
def mul (a b : Double) : Double := ofFloat (a.toFloat * b.toFloat)

/-- Quotient, rounded to nearest. -/
def div (a b : Double) : Double := ofFloat (a.toFloat / b.toFloat)

/-! ## Small laws -/

theorem lt_irrefl (a : Double) : a.lt a = false := by simp [lt]

/-- The numeric order is transitive. -/
theorem lt_trans {a b c : Double} (hab : a.lt b = true) (hbc : b.lt c = true) :
    a.lt c = true := by
  simp only [lt, Bool.and_eq_true, Bool.not_eq_eq_eq_not, Bool.not_true,
    decide_eq_true_eq] at hab hbc ⊢
  exact ⟨⟨hab.1.1, hbc.1.2⟩, by omega⟩

/-- A NaN is less than nothing. -/
theorem lt_of_isNaN {a : Double} (b : Double) (h : a.isNaN = true) : a.lt b = false := by
  simp [lt, h]

end Double

end Meterboard
