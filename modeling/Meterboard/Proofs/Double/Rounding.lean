import Meterboard.Proofs.Double.Machine

/-!
# How the machine rounds

The exact result of an operation is a significand with too many digits, or a quotient of two.  The
machine drops digits until 53 are left, and rounds what is left down or up.  Which of the two it
does depends on the digits that were dropped; how far off the result is does not.

**Shifting.**  `Machine.Fills` — there are digits enough to start from.  Then what is left after
shifting has 53 of them, or the smallest exponent (`Fills.div_bounds`), and rounding up carries into
one more at most (`canonical_shift`).

**Rounding.**  `write_roundWithAccuracy` — the double that is written is what was left or the next
one.  `near_roundWithAccuracy` — so it is off by one step at most.

**Signs.**  `near_normalize` — the same for a whole number of steps with a sign, which may have too
few digits (`fills_decreaseExponent`).
-/

namespace Meterboard

namespace Machine

open Float.Model
open Float.Model.UnpackedFloat (Accuracy ExtendedMantissa shiftToTargetExponent roundWithAccuracy)

/-! ## Shifting -/

/-- The exponent that a number is to have. -/
lemma targetExponent_eq (m : Nat) (e : Int) :
    Format.binary64.targetExponent (totalExponent m e) = max (m.log2 + e - 52) (-1074) := by
  show max ((m.log2 : Int) + 1 + e - 53) (-1074) = _
  omega

lemma mantissa_shiftRight (m : ExtendedMantissa) (k : Nat) :
    (m >>> k).mantissa = m.mantissa / 2 ^ k := by
  induction k with
  | zero => exact (Nat.div_one _).symm
  | succ k ih =>
      show (m >>> k).mantissa / 2 = _
      rw [ih, Nat.div_div_eq_div_mul, pow_succ]

lemma mantissa_ofMantissaAndAccuracy (m : Nat) (a : Accuracy) :
    (ExtendedMantissa.ofMantissaAndAccuracy m a).mantissa = m := by
  rcases a with _ | _ | _ | _ <;> rfl

/-- How far a number is shifted. -/
def shift (m : Nat) (e : Int) : Nat := (max (m.log2 + e - 52) (-1074) - e).toNat

lemma shiftToTargetExponent_eq (m : Nat) (e : Int) (a : Accuracy) :
    (shiftToTargetExponent .binary64 m e a).1.mantissa = m / 2 ^ shift m e ∧
      (shiftToTargetExponent .binary64 m e a).2 = e + shift m e := by
  have hshift : shiftToTargetExponent .binary64 m e a
      = (ExtendedMantissa.ofMantissaAndAccuracy m a >>> shift m e, e + shift m e) := by
    rw [shiftToTargetExponent, targetExponent_eq]
    rfl
  rw [hshift, mantissa_shiftRight, mantissa_ofMantissaAndAccuracy]
  exact ⟨rfl, rfl⟩

lemma roundedMantissa_bounds (m : ExtendedMantissa) :
    m.mantissa ≤ m.roundedMantissa ∧ m.roundedMantissa ≤ m.mantissa + 1 := by
  rcases m with ⟨m, _ | _, _ | _⟩ <;>
    simp only [ExtendedMantissa.roundedMantissa, ExtendedMantissa.accuracy,
      Accuracy.roundToNearestEven] <;>
    omega

lemma shifted_value (m k : Nat) (e : Int) :
    ((m * 2 ^ k : Nat) : ℚ) * 2 ^ (e - k) = m * 2 ^ e := by
  have hpower : (2 : ℚ) ^ e = 2 ^ k * 2 ^ (e - k) := by
    rw [← zpow_natCast, ← zpow_add₀ two_ne_zero]
    congr 1
    ring
  rw [hpower]
  push_cast
  ring

/-- Enough digits are left to fill a significand. -/
def Fills (m : Nat) (e : Int) : Prop := 2 ^ 52 ≤ m ∨ e ≤ -1074

section

variable {m : Nat} {e : Int}

lemma Fills.add_shift (h : Fills m e) : e + shift m e = max (m.log2 + e - 52) (-1074) := by
  have hlog : 2 ^ 52 ≤ m → 52 ≤ m.log2 := fun hm => (Nat.le_log2 (by omega)).2 hm
  unfold Fills at h
  unfold shift
  omega

/-- What is left after shifting has at most 53 digits, and no fewer unless the exponent is the
smallest. -/
lemma Fills.div_bounds (h : Fills m e) :
    m / 2 ^ shift m e < 2 ^ 53 ∧ (2 ^ 52 ≤ m / 2 ^ shift m e ∨ e + shift m e = -1074) := by
  have hshift := h.add_shift
  constructor
  · rw [Nat.div_lt_iff_lt_mul (Nat.two_pow_pos _), ← pow_add]
    refine Nat.lt_log2_self.trans_le (Nat.pow_le_pow_right (by decide) ?_)
    omega
  · rcases le_or_gt (m.log2 + e - 52 : Int) (-1074) with hsmall | hlarge
    · exact .inr (by omega)
    · have hpos : m ≠ 0 := by
        rintro rfl
        unfold Fills at h
        simp at hlarge
        omega
      refine .inl ?_
      rw [Nat.le_div_iff_mul_le (Nat.two_pow_pos _), ← pow_add]
      refine (Nat.pow_le_pow_right (by decide) ?_).trans (Nat.log2_self_le hpos)
      omega

/-- A number of at most 53 digits, or the next one, is shifted by no digit that counts. -/
lemma canonical_shift {r : Nat} {t : Int} (hr : r ≤ 2 ^ 53) (ht : -1074 ≤ t) (hfinite : t ≤ 970)
    (hfull : 2 ^ 52 ≤ r ∨ t = -1074) :
    ∃ significand exponent, Double.Canonical significand exponent ∧
      r / 2 ^ shift r t = significand ∧ t + shift r t = (exponent : Int) - 1074 ∧
      (significand : ℚ) * 2 ^ ((exponent : Int) - 1074) = r * 2 ^ t := by
  rcases Nat.lt_or_eq_of_le hr with hlt | rfl
  · have hlog : r.log2 ≤ 52 := by
      rcases Nat.eq_zero_or_pos r with rfl | hpos
      · decide
      · exact Nat.le_of_lt_succ ((Nat.log2_lt hpos.ne').2 hlt)
    have hnone : shift r t = 0 := by
      unfold shift
      omega
    obtain ⟨exponent, hexponent⟩ : ∃ exponent : Nat, (exponent : Int) - 1074 = t :=
      ⟨(t + 1074).toNat, by omega⟩
    refine ⟨r, exponent, ⟨hlt, ?_, by omega⟩, ?_, ?_, ?_⟩
    · omega
    · rw [hnone, pow_zero, Nat.div_one]
    · rw [hnone, hexponent, Nat.cast_zero, add_zero]
    · rw [hexponent]
  · have hone : shift (2 ^ 53) t = 1 := by
      unfold shift
      rw [Nat.log2_two_pow]
      omega
    obtain ⟨exponent, hexponent⟩ : ∃ exponent : Nat, (exponent : Int) - 1074 = t + 1 :=
      ⟨(t + 1 + 1074).toNat, by omega⟩
    refine ⟨2 ^ 52, exponent, ⟨by decide, .inl le_rfl, by omega⟩, ?_, ?_, ?_⟩
    · rw [hone]
      rfl
    · rw [hone, hexponent, Nat.cast_one]
    · rw [hexponent, zpow_add₀ two_ne_zero]
      push_cast
      ring

end

/-! ## Rounding -/

section

variable {m : Nat} {e : Int}

/-- What is left after shifting is rounded down or up, and written. -/
lemma write_roundWithAccuracy (negative : Bool) (h : Fills m e) (hfinite : m.log2 + e ≤ 1022)
    (a : Accuracy) :
    ∃ r : Nat, m / 2 ^ shift m e ≤ r ∧ r ≤ m / 2 ^ shift m e + 1 ∧
      (write (roundWithAccuracy .binary64 (sign negative) m e a)).value?
        = some (Double.signed negative (r * 2 ^ (e + shift m e))) := by
  obtain ⟨hmantissa, hexponent⟩ := shiftToTargetExponent_eq m e a
  obtain ⟨hlow, hhigh⟩ :=
    roundedMantissa_bounds (shiftToTargetExponent .binary64 m e a).1
  obtain ⟨hlt, hfull⟩ := h.div_bounds
  have hshift := h.add_shift
  rw [hmantissa] at hlow hhigh
  generalize hr : (shiftToTargetExponent .binary64 m e a).1.roundedMantissa = r at hlow hhigh
  obtain ⟨significand, exponent, hcanonical, hsignificand, htarget, hvalue⟩ :=
    canonical_shift (r := r) (t := e + shift m e) (by omega) (by omega) (by omega) (by omega)
  obtain ⟨hmantissa', hexponent'⟩ := shiftToTargetExponent_eq r (e + shift m e) .exact
  have hround : roundWithAccuracy .binary64 (sign negative) m e a
      = unpacked negative significand (exponent - 1074) := by
    show unpacked negative (shiftToTargetExponent .binary64
        (shiftToTargetExponent .binary64 m e a).1.roundedMantissa
        (shiftToTargetExponent .binary64 m e a).2 .exact).1.mantissa
      (shiftToTargetExponent .binary64
        (shiftToTargetExponent .binary64 m e a).1.roundedMantissa
        (shiftToTargetExponent .binary64 m e a).2 .exact).2 = _
    rw [hr, hexponent, hmantissa', hexponent', hsignificand, htarget]
  refine ⟨r, hlow, hhigh, ?_⟩
  rw [hround, value?_write_unpacked negative hcanonical, hvalue]

/-- What lies among whole steps is no further than one step from the step below and the one
above. -/
lemma round_error {r k : Nat} (hr : m / 2 ^ k ≤ r) (hr' : r ≤ m / 2 ^ k + 1) {q : ℚ}
    (hlow : m * (2 : ℚ) ^ e ≤ q) (hhigh : q ≤ (m + 1) * (2 : ℚ) ^ e) :
    |r * (2 : ℚ) ^ (e + (k : Int)) - q| ≤ 2 ^ (e + (k : Int)) := by
  have hstep : (2 : ℚ) ^ (e + (k : Int)) = 2 ^ k * 2 ^ e := by
    rw [add_comm, zpow_add₀ two_ne_zero, zpow_natCast]
  have hpos : (0 : ℚ) ≤ 2 ^ e := by positivity
  have hpos' : (0 : ℚ) ≤ 2 ^ k * 2 ^ e := by positivity
  have hbelow : ((m / 2 ^ k : Nat) : ℚ) * 2 ^ k ≤ m := by
    exact_mod_cast Nat.div_mul_le_self m (2 ^ k)
  have habove : (m : ℚ) + 1 ≤ ((m / 2 ^ k : Nat) + 1) * 2 ^ k := by
    have hlt := Nat.lt_mul_div_succ m (Nat.two_pow_pos k)
    rw [mul_comm] at hlt
    exact_mod_cast hlt
  have hr : ((m / 2 ^ k : Nat) : ℚ) ≤ r := by exact_mod_cast hr
  have hr' : (r : ℚ) ≤ (m / 2 ^ k : Nat) + 1 := by exact_mod_cast hr'
  generalize ((m / 2 ^ k : Nat) : ℚ) = whole at *
  have hlow' : whole * (2 ^ k * 2 ^ e) ≤ q :=
    calc whole * (2 ^ k * 2 ^ e)
        = whole * 2 ^ k * 2 ^ e := by ring
      _ ≤ m * 2 ^ e := mul_le_mul_of_nonneg_right hbelow hpos
      _ ≤ q := hlow
  have hhigh' : q ≤ (whole + 1) * (2 ^ k * 2 ^ e) :=
    calc q
        ≤ (m + 1) * 2 ^ e := hhigh
      _ ≤ (whole + 1) * 2 ^ k * 2 ^ e := mul_le_mul_of_nonneg_right habove hpos
      _ = (whole + 1) * (2 ^ k * 2 ^ e) := by ring
  have hdown := mul_le_mul_of_nonneg_right hr hpos'
  have hup := mul_le_mul_of_nonneg_right hr' hpos'
  rw [hstep, abs_le]
  constructor <;> linarith

/-- A power of two whose steps, 52 powers below, are powers of doubles as well. -/
def Scale (n : Int) : Prop := -1022 ≤ n ∧ n ≤ 1022

/-- **Rounding is off by one step at most**, and what is below a power of two has steps of that
power less 52. -/
theorem near_roundWithAccuracy (negative : Bool) (h : Fills m e) (a : Accuracy) {q : ℚ}
    (hlow : m * (2 : ℚ) ^ e ≤ q) (hhigh : q ≤ (m + 1) * (2 : ℚ) ^ e) {n : Int} (hn : q ≤ 2 ^ n)
    (hscale : Scale n) :
    (write (roundWithAccuracy .binary64 (sign negative) m e a)).Near
      (Double.signed negative q) (2 ^ (n - 52)) := by
  obtain ⟨hsmall, hlarge⟩ := hscale
  have hlog : m.log2 + e ≤ n := by
    rcases Nat.eq_zero_or_pos m with rfl | hpos
    · unfold Fills at h
      simp
      omega
    · have hpower : (2 : ℚ) ^ ((m.log2 : Int) + e) ≤ 2 ^ n := by
        have hdigits : (2 : ℚ) ^ m.log2 ≤ m := by exact_mod_cast Nat.log2_self_le hpos.ne'
        rw [zpow_add₀ two_ne_zero, zpow_natCast]
        exact (mul_le_mul_of_nonneg_right hdigits (by positivity)).trans (hlow.trans hn)
      exact (zpow_le_zpow_iff_right₀ one_lt_two).1 hpower
  obtain ⟨r, hr, hr', hvalue⟩ := write_roundWithAccuracy negative h (by omega) a
  refine ⟨_, hvalue, ?_⟩
  have hshift := h.add_shift
  generalize shift m e = k at *
  have hstep : (2 : ℚ) ^ (e + (k : Int)) ≤ 2 ^ (n - 52) :=
    zpow_le_zpow_right₀ one_le_two (by omega)
  calc |Double.signed negative (r * (2 : ℚ) ^ (e + (k : Int))) - Double.signed negative q|
      = |r * (2 : ℚ) ^ (e + (k : Int)) - q| := by
        cases negative
        · rfl
        · rw [Double.signed, Double.signed, if_pos rfl, if_pos rfl, ← abs_neg]
          congr 1
          ring
    _ ≤ 2 ^ (e + (k : Int)) := round_error hr hr' hlow hhigh
    _ ≤ 2 ^ (n - 52) := hstep

/-! ## Rounding to fewer or more digits -/

/-- Digits are added until the significand is filled; the number stays. -/
lemma fills_decreaseExponent (h : 0 < m) (e : Int) :
    let parts := UnpackedFloat.decreaseExponent m e (max (m.log2 + e - 52) (-1074))
    Fills parts.1 parts.2 ∧ (parts.1 : ℚ) * 2 ^ parts.2 = m * 2 ^ e := by
  intro parts
  obtain ⟨k, hk, hparts⟩ : ∃ k : Nat, k = (e - max (m.log2 + e - 52) (-1074)).toNat ∧
      parts = (m <<< k, e - k) := ⟨_, rfl, rfl⟩
  rw [hparts, Nat.shiftLeft_eq]
  constructor
  · rcases le_or_gt (e - k : Int) (-1074) with hsmall | hlarge
    · exact .inr hsmall
    · refine .inl ?_
      calc 2 ^ 52
          ≤ 2 ^ (m.log2 + k) := Nat.pow_le_pow_right (by decide) (by omega)
        _ = 2 ^ m.log2 * 2 ^ k := pow_add _ _ _
        _ ≤ m * 2 ^ k := Nat.mul_le_mul_right _ (Nat.log2_self_le h.ne')
  · exact shifted_value m k e

lemma near_round (negative : Bool) (h : 0 < m) {n : Int} (hn : m * (2 : ℚ) ^ e ≤ 2 ^ n)
    (hscale : Scale n) :
    (write (UnpackedFloat.round .binary64 (sign negative) m e)).Near
      (Double.signed negative (m * 2 ^ e)) (2 ^ (n - 52)) := by
  obtain ⟨hfills, hvalue⟩ := fills_decreaseExponent h e
  rw [UnpackedFloat.round, targetExponent_eq]
  refine near_roundWithAccuracy negative hfills .exact hvalue.le ?_ hn hscale
  rw [← hvalue]
  exact mul_le_mul_of_nonneg_right (le_add_of_nonneg_right zero_le_one) (by positivity)

/-- A whole number of steps of two to some power is rounded. -/
lemma near_normalize (m e : Int) (s : UnpackedFloat.Sign) {n : Int}
    (hn : |m * (2 : ℚ) ^ e| ≤ 2 ^ n) (hscale : Scale n) :
    (write (UnpackedFloat.normalize .binary64 m e s)).Near (m * 2 ^ e) (2 ^ (n - 52)) := by
  have hpos : (0 : ℚ) < 2 ^ e := by positivity
  rw [abs_mul, abs_of_pos hpos] at hn
  rcases lt_trichotomy m 0 with hneg | rfl | hpos
  · obtain ⟨k, rfl⟩ : ∃ k : Nat, m = -k := ⟨(-m).toNat, by omega⟩
    have hk : 0 < k := by omega
    have hround : UnpackedFloat.normalize .binary64 (-k) e s
        = UnpackedFloat.round .binary64 (sign true) k e := by
      rw [UnpackedFloat.normalize, compare_lt_iff_lt.2 hneg, neg_neg, Int.toNat_natCast]
      rfl
    have hvalue : ((-(k : Int) : Int) : ℚ) * 2 ^ e = Double.signed true (k * 2 ^ e) := by
      rw [Double.signed, if_pos rfl]
      push_cast
      ring
    rw [hround, hvalue]
    refine near_round true hk ?_ hscale
    simpa using hn
  · have hzero : write (UnpackedFloat.normalize .binary64 0 e s) = write (.zero s) := by
      rw [UnpackedFloat.normalize, compare_eq_iff_eq.2 rfl]
    rw [hzero, Int.cast_zero, zero_mul]
    exact Double.near_of_value? (value?_write_zero s) (by positivity)
  · obtain ⟨k, rfl⟩ := Int.eq_ofNat_of_zero_le hpos.le
    have hk : 0 < k := by omega
    have hround : UnpackedFloat.normalize .binary64 k e s
        = UnpackedFloat.round .binary64 (sign false) k e := by
      rw [UnpackedFloat.normalize, compare_gt_iff_gt.2 hpos, Int.toNat_natCast]
      rfl
    rw [hround]
    refine near_round false hk ?_ hscale
    simpa using hn

end

end Machine

end Meterboard
