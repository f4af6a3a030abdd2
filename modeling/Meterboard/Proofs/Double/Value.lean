import Mathlib.Algebra.Order.Field.Power
import Mathlib.Data.Rat.Cast.Order
import Mathlib.Tactic.Linarith
import Mathlib.Tactic.Positivity
import Mathlib.Tactic.Ring
import Meterboard.Double

/-!
# The numbers that doubles stand for

A finite double is a whole number of smallest steps.  How many is read off its bits as a significand
and an exponent, and only one pair of the two is ever read.

**Bits.**  `Double.Canonical` — the pairs that are read (`canonical_parts`).  `ofMagnitude` writes
them (`parts_ofMagnitude`), and the pattern without its sign is a sum of the two
(`magnitude_eq`).

**Values.**  `Double.value?` — the rational number; `value?_ofMagnitude` — that of a pair.

**Order.**  `lt_iff_of_value?` — the order on patterns is the order of the numbers, because more
steps have the larger pattern (`units_lt_units`).

**Whole numbers.**  `value?_ofNat` — below two to the 53rd they are exact.
-/

namespace Meterboard

namespace Double

/-! ## Bits -/

/-- A significand and an exponent that can be read off a finite double: the significand has 53 bits,
and fewer only where the exponent is the smallest. -/
structure Canonical (significand exponent : Nat) : Prop where
  lt : significand < 2 ^ 53
  full : 2 ^ 52 ≤ significand ∨ exponent = 0
  finite : exponent ≤ 2045

lemma infiniteMagnitude_eq : infiniteMagnitude = 2047 * 2 ^ 52 := rfl

lemma canonical_parts {x : Double} (h : x.isFinite = true) :
    Canonical x.significand x.exponent := by
  have hfinite : x.magnitude < 2047 * 2 ^ 52 := of_decide_eq_true h
  simp only [significand, exponent, Nat.pow_eq]
  constructor
  · split <;> omega
  · split <;> omega
  · omega

lemma magnitude_eq (x : Double) : x.magnitude = x.exponent * 2 ^ 52 + x.significand := by
  simp only [significand, exponent, Nat.pow_eq]
  split <;> omega

section

variable {significand exponent : Nat}

lemma Canonical.magnitude_lt (h : Canonical significand exponent) :
    exponent * 2 ^ 52 + significand < 2047 * 2 ^ 52 := by
  have hlt := h.lt
  have hfinite := h.finite
  omega

lemma magnitude_ofMagnitude (negative : Bool) {magnitude : Nat} (h : magnitude < 2 ^ 63) :
    (ofMagnitude negative magnitude).magnitude = magnitude ∧
      (ofMagnitude negative magnitude).isNegative = negative := by
  have hbits : (ofMagnitude negative magnitude).bits.toNat
      = (if negative then 2 ^ 63 else 0) + magnitude := by
    refine UInt64.toNat_ofNat_of_lt ?_
    cases negative <;> simp [UInt64.size] <;> omega
  cases negative
  · simp [Double.magnitude, isNegative, hbits]
    omega
  · simp [Double.magnitude, isNegative, hbits]
    omega

/-- What was written is read. -/
lemma parts_ofMagnitude (negative : Bool) (h : Canonical significand exponent) :
    let x := ofMagnitude negative (exponent * 2 ^ 52 + significand)
    x.isFinite = true ∧ x.isNegative = negative ∧ x.significand = significand ∧
      x.exponent = exponent := by
  intro x
  have hbound := h.magnitude_lt
  have hlt := h.lt
  have hfull := h.full
  have hfits : exponent * 2 ^ 52 + significand < 2 ^ 63 := by omega
  obtain ⟨hmagnitude, hnegative⟩ := magnitude_ofMagnitude negative hfits
  refine ⟨?_, hnegative, ?_, ?_⟩
  · simp only [isFinite, x, hmagnitude, infiniteMagnitude_eq, decide_eq_true_eq]
    exact hbound
  · simp only [Double.significand, x, hmagnitude, Nat.pow_eq]
    split <;> omega
  · simp only [Double.exponent, x, hmagnitude, Nat.pow_eq]
    omega

/-! ## Values -/

/-- A number with a sign. -/
def signed (negative : Bool) (q : ℚ) : ℚ := if negative then -q else q

/-- The number that a double stands for, if it is finite. -/
def value? (x : Double) : Option ℚ :=
  if x.isFinite then
    some (signed x.isNegative (x.significand * 2 ^ ((x.exponent : Int) - 1074)))
  else none

lemma value?_eq_some_iff {x : Double} {q : ℚ} :
    x.value? = some q ↔ x.isFinite = true ∧
      q = signed x.isNegative (x.significand * 2 ^ ((x.exponent : Int) - 1074)) := by
  rw [value?, Option.ite_none_right_eq_some, Option.some_inj, eq_comm (a := q)]

lemma value?_ofMagnitude (negative : Bool) (h : Canonical significand exponent) :
    (ofMagnitude negative (exponent * 2 ^ 52 + significand)).value?
      = some (signed negative (significand * 2 ^ ((exponent : Int) - 1074))) := by
  obtain ⟨hfinite, hnegative, hsignificand, hexponent⟩ := parts_ofMagnitude negative h
  rw [value?, if_pos hfinite, hnegative, hsignificand, hexponent]

/-- The double stands for a number that is no further away than this. -/
def Near (x : Double) (q error : ℚ) : Prop := ∃ r, x.value? = some r ∧ |r - q| ≤ error

lemma near_of_value? {x : Double} {q error : ℚ} (h : x.value? = some q) (herror : 0 ≤ error) :
    x.Near q error :=
  ⟨q, h, by rwa [sub_self, abs_zero]⟩

/-! ## Order -/

/-- More steps have the larger pattern. -/
lemma units_lt_units {significand' exponent' : Nat} (h : Canonical significand exponent)
    (h' : Canonical significand' exponent')
    (hlt : exponent * 2 ^ 52 + significand < exponent' * 2 ^ 52 + significand') :
    significand * 2 ^ exponent < significand' * 2 ^ exponent' := by
  have hs := h.lt
  have hs' := h'.lt
  have hfull' := h'.full
  rcases Nat.lt_trichotomy exponent exponent' with hexponent | rfl | hexponent
  · -- the larger pattern has a full significand, and at least twice the power
    calc significand * 2 ^ exponent
        < 2 ^ 53 * 2 ^ exponent := Nat.mul_lt_mul_of_pos_right hs (Nat.two_pow_pos _)
      _ = 2 ^ 52 * 2 ^ (exponent + 1) := by ring
      _ ≤ significand' * 2 ^ exponent' :=
          Nat.mul_le_mul (by omega) (Nat.pow_le_pow_right (by decide) hexponent)
  · exact Nat.mul_lt_mul_of_pos_right (by omega) (Nat.two_pow_pos _)
  · have hfull := h.full
    omega

end

/-- A finite double as a whole number of steps, with its sign. -/
def steps (x : Double) : Int := if x.isNegative then -x.units else x.units

lemma value_eq_steps {x : Double} {q : ℚ} (h : x.value? = some q) :
    q = x.steps * 2 ^ (-1074 : Int) := by
  obtain ⟨-, rfl⟩ := value?_eq_some_iff.1 h
  have hunits : (x.significand : ℚ) * 2 ^ ((x.exponent : Int) - 1074)
      = (x.units : ℚ) * 2 ^ (-1074 : Int) := by
    rw [units, sub_eq_add_neg, zpow_add₀ two_ne_zero, zpow_natCast, ← mul_assoc]
    norm_cast
  rw [hunits, steps]
  cases x.isNegative <;> simp [signed]

/-- The larger pattern has more steps. -/
lemma magnitude_lt_iff {a b : Double} (ha : a.isFinite = true) (hb : b.isFinite = true) :
    a.magnitude < b.magnitude ↔ a.units < b.units := by
  have hunits : ∀ {x y : Double}, x.isFinite = true → y.isFinite = true →
      x.magnitude < y.magnitude → x.units < y.units := by
    intro x y hx hy hlt
    rw [magnitude_eq, magnitude_eq] at hlt
    exact units_lt_units (canonical_parts hx) (canonical_parts hy) hlt
  refine ⟨hunits ha hb, fun hlt => ?_⟩
  by_contra hge
  rcases Nat.lt_or_eq_of_le (not_lt.1 hge) with hgt | heq
  · exact absurd (hunits hb ha hgt) (by omega)
  · have hsame : b.units = a.units := by simp only [units, significand, exponent, heq]
    omega

lemma key_lt_key_iff {a b : Double} (ha : a.isFinite = true) (hb : b.isFinite = true) :
    a.key < b.key ↔ a.steps < b.steps := by
  have hzero : zero.isFinite = true := by decide
  have hmagnitude : zero.magnitude = 0 := by decide
  have hunits : zero.units = 0 := by decide
  have hab := magnitude_lt_iff ha hb
  have hba := magnitude_lt_iff hb ha
  have ha0 := magnitude_lt_iff hzero ha
  have hb0 := magnitude_lt_iff hzero hb
  unfold key steps
  cases a.isNegative <;> cases b.isNegative <;>
    simp only [if_true, if_false, Bool.false_eq_true] <;> omega

/-- **The order of finite doubles is that of the numbers.** -/
theorem lt_iff_of_value? {a b : Double} {p q : ℚ} (ha : a.value? = some p)
    (hb : b.value? = some q) : a.lt b = true ↔ p < q := by
  have hfinite : ∀ {x : Double} {r : ℚ}, x.value? = some r →
      x.isFinite = true ∧ x.isNaN = false := by
    intro x r h
    obtain ⟨hx, -⟩ := value?_eq_some_iff.1 h
    refine ⟨hx, ?_⟩
    simp only [isFinite, decide_eq_true_eq] at hx
    simp only [isNaN, decide_eq_false_iff_not]
    omega
  obtain ⟨hafinite, hanumber⟩ := hfinite ha
  obtain ⟨hbfinite, hbnumber⟩ := hfinite hb
  have hstep : (0 : ℚ) < 2 ^ (-1074 : Int) := by positivity
  rw [value_eq_steps ha, value_eq_steps hb, mul_lt_mul_iff_left₀ hstep, Int.cast_lt,
    ← key_lt_key_iff hafinite hbfinite]
  simp [lt, hanumber, hbnumber]

/-! ## Whole numbers -/

/-- The digits of a whole number, moved to the left as far as they go. -/
lemma canonical_digits {n : Nat} (hpos : n ≠ 0) (h : n < 2 ^ 53) :
    Canonical (n * 2 ^ (52 - n.log2)) (n.log2 + 1022) := by
  have hlog : n.log2 < 53 := (Nat.log2_lt hpos).2 h
  have hpower : 2 ^ n.log2 * 2 ^ (52 - n.log2) = 2 ^ 52 := by
    rw [← pow_add]
    congr 1
    omega
  refine ⟨?_, .inl ?_, by omega⟩
  · calc n * 2 ^ (52 - n.log2)
        < 2 ^ (n.log2 + 1) * 2 ^ (52 - n.log2) :=
          Nat.mul_lt_mul_of_pos_right Nat.lt_log2_self (Nat.two_pow_pos _)
      _ = 2 * (2 ^ n.log2 * 2 ^ (52 - n.log2)) := by ring
      _ = 2 ^ 53 := by rw [hpower]; rfl
  · rw [← hpower]
    exact Nat.mul_le_mul_right _ (Nat.log2_self_le hpos)

lemma floorLog2_one {n : Nat} (h : n ≠ 0) : floorLog2 n 1 = n.log2 := by
  have hguess : (n.log2 : Int) - Nat.log2 1 = .ofNat n.log2 := sub_zero _
  have hreached : 1 * Nat.pow 2 n.log2 ≤ n := by
    rw [one_mul]
    exact Nat.log2_self_le h
  simp only [floorLog2, hguess, hreached, decide_true, if_true, Int.ofNat_eq_natCast]

/-- The pattern of a whole number is its own digits, moved to the left as far as they go. -/
lemma nearestMagnitude_one {n : Nat} (hpos : n ≠ 0) (h : n < 2 ^ 53) :
    nearestMagnitude n 1 = (n.log2 + 1022) * 2 ^ 52 + n * 2 ^ (52 - n.log2) := by
  have hlog : n.log2 < 53 := (Nat.log2_lt hpos).2 h
  have hstep : (floorLog2 n 1 - 52 + 1074).toNat = n.log2 + 1022 := by
    rw [floorLog2_one hpos]
    omega
  have hdigits : divEven (n * unitsPerOne) (1 * Nat.pow 2 (n.log2 + 1022))
      = n * 2 ^ (52 - n.log2) := by
    have hshift : 1074 = 52 - n.log2 + (n.log2 + 1022) := by omega
    have hunits : n * unitsPerOne = n * 2 ^ (52 - n.log2) * 2 ^ (n.log2 + 1022) := by
      delta unitsPerOne
      rw [hshift, Nat.pow_eq, pow_add, mul_assoc]
    have hpower : 0 < 2 ^ (n.log2 + 1022) := Nat.two_pow_pos _
    rw [hunits, one_mul, Nat.pow_eq]
    simp [divEven, hpower]
  have hfinite : ¬ infiniteMagnitude ≤ (n.log2 + 1022) * 2 ^ 52 + n * 2 ^ (52 - n.log2) :=
    not_le.2 (canonical_digits hpos h).magnitude_lt
  rw [nearestMagnitude, if_neg hpos]
  dsimp only
  rw [hstep, hdigits, Nat.pow_eq, if_neg hfinite]

/-- Whole numbers below two to the 53rd are exact. -/
theorem value?_ofNat {n : Nat} (h : n < 2 ^ 53) : (ofNat n).value? = some (n : ℚ) := by
  rcases Nat.eq_zero_or_pos n with rfl | hpos
  · rw [show ofNat 0 = ofMagnitude false (0 * 2 ^ 52 + 0) from rfl,
      value?_ofMagnitude false ⟨by decide, .inr rfl, by decide⟩]
    simp [signed]
  have hlog : n.log2 < 53 := (Nat.log2_lt hpos.ne').2 h
  rw [ofNat, ofRatio, nearestMagnitude_one hpos.ne' h,
    value?_ofMagnitude false (canonical_digits hpos.ne' h), signed]
  have hpower : (2 : ℚ) ^ (52 - n.log2) * 2 ^ (((n.log2 + 1022 : Nat) : Int) - 1074) = 1 := by
    rw [← zpow_natCast, ← zpow_add₀ two_ne_zero]
    have hexponent : ((52 - n.log2 : Nat) : Int) + (((n.log2 + 1022 : Nat) : Int) - 1074) = 0 := by
      omega
    rw [hexponent, zpow_zero]
  rw [if_neg Bool.false_ne_true, Nat.cast_mul, mul_assoc, Nat.cast_pow, Nat.cast_two,
    hpower, mul_one]

end Double

end Meterboard
