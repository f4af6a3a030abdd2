import Meterboard.Double

/-!
# Shortest decimals

A double is written with the fewest digits that read back as the same double, and among those with
the digits nearest to it.

* `Double.Grid` — the multiples of one power of ten, over a common denominator with a double and
  the interval of numbers that round to it.
* `Double.shortest` — the digits and the exponent of the leading one.
-/

namespace Meterboard.Double

/-- A decimal in scientific form: `digits` without leading or trailing zeros, the first of them
standing before the point, times ten to the `exponent`. -/
structure Scientific where
  digits : Nat
  exponent : Int
deriving DecidableEq, Repr

/-- Which of two equally near decimals is written. -/
inductive Tie where
  | toEven
  | upward
deriving DecidableEq, Repr

/-- A positive double and the ends of the interval of numbers that round to it, as quarters of the
distance to the next double over the denominator `den`. -/
structure Interval where
  low : Nat
  value : Nat
  high : Nat
  den : Nat
  /-- The ends themselves round to the double. -/
  closed : Bool

/-- The rounding interval of a positive finite double.  Below a power of two the doubles lie twice
as dense, so there the lower end is nearer. -/
def interval (x : Double) : Interval :=
  let m := x.significand
  let scale := Nat.pow 2 x.exponent
  let below := if m = Nat.pow 2 52 ∧ 0 < x.exponent then 1 else 2
  ⟨(4 * m - below) * scale, 4 * m * scale, (4 * m + 2) * scale, 4 * unitsPerOne, m % 2 = 0⟩

/-- The multiples `k * num / den` of one power of ten, brought to an interval's denominator. -/
structure Grid where
  num : Nat
  den : Nat

/-- The grid of `10 ^ e` on an interval. -/
def Interval.grid (i : Interval) : Int → Grid
  | .ofNat e => ⟨i.den * Nat.pow 10 e, 1⟩
  | .negSucc e => ⟨i.den, Nat.pow 10 (e + 1)⟩

/-- A grid point lies in the interval. -/
def Interval.holds (i : Interval) (g : Grid) (k : Nat) : Bool :=
  let p := k * g.num
  if i.closed then i.low * g.den ≤ p && p ≤ i.high * g.den
  else i.low * g.den < p && p < i.high * g.den

/-- The grid point next to the value that lies in the interval: of the neighbours below and above
the nearer one, and of two equally near ones as the tie says. -/
def Interval.nearest? (i : Interval) (tie : Tie) (g : Grid) : Option Nat :=
  let k := i.value * g.den / g.num
  let rest := 2 * (i.value * g.den % g.num)
  match i.holds g k, i.holds g (k + 1) with
  | true, false => some k
  | false, true => some (k + 1)
  | false, false => none
  | true, true =>
      if rest < g.num then some k
      else if g.num < rest then some (k + 1)
      else
        match tie with
        | .upward => some (k + 1)
        | .toEven => some (k + k % 2)

/-- The power of ten at or below the value of an interval.  It is reckoned from the power of two,
low enough to be at or below it, and at most three steps of ten too low. -/
def Interval.floorLog10 (i : Interval) : Int :=
  go 4 (Int.fdiv (floorLog2 i.value i.den * 30103) 100000 - 1)
where
  /-- Climb from `e` while the next power of ten is still at or below the value. -/
  go : Nat → Int → Int
    | 0, e => e
    | fuel + 1, e =>
        let g := i.grid (e + 1)
        if g.num ≤ i.value * g.den then go fuel (e + 1) else e

/-- The first grid of a row of ever finer ones that meets the interval. -/
def Interval.firstHit (i : Interval) (tie : Tie) (lead : Int) : Nat → Int → Scientific
  | 0, _ => ⟨0, 0⟩
  | fuel + 1, e =>
      match i.nearest? tie (i.grid e) with
      | some k => if k = 10 then ⟨1, lead + 1⟩ else ⟨k, lead⟩
      | none => i.firstHit tie lead fuel (e - 1)

/-- The shortest decimal that reads back as a positive finite double.  Seventeen digits always
suffice; one more is allowed for, so that the search never runs out. -/
def shortest (tie : Tie) (x : Double) : Scientific :=
  let i := x.interval
  let lead := i.floorLog10
  i.firstHit tie lead 18 lead

end Meterboard.Double
