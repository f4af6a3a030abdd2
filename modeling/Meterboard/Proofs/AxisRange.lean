import Mathlib.Tactic.NormNum
import Meterboard.AxisRange
import Meterboard.Proofs.Double.Arithmetic

/-!
# Equal steps over a range of time

The times below the columns of a plot are computed with four operations on doubles, each of which
rounds.  Columns that lie close together could get the same time.

**Two ends.**  `between_lt_iff` — the range between two times has a length just where one of them is
earlier.

**Steps.**  `AxisRange.step` is the time after some of several equal steps, and
`AxisRange.Resolves` asks that a step is long for doubles of the size of the ends.  `near_width`,
`near_share` and `near_offset` follow the operations with what each of them loses, up to
`near_step`; then `step_lt_step` says that no two steps lead to the same time.
-/

namespace Meterboard

namespace AxisRange

/-! ## Two ends -/

/-- The range between two times has a length just where one of them is earlier. -/
lemma between_lt_iff (s t : Double) :
    (between s t).min.lt (between s t).max = true ↔ s.lt t = true ∨ t.lt s = true := by
  simp only [between, Double.min, Double.max]
  by_cases hnan : s.isNaN = true
  · have hs : s.lt t = false := Double.lt_of_isNaN t hnan
    have ht : t.lt s = false := by simp [Double.lt, hnan]
    simp [hnan, hs, ht, Double.lt_irrefl]
  · rcases hts : t.lt s with _ | _
    · rcases hst : s.lt t with _ | _ <;> simp [hnan, hst, Double.lt_irrefl]
    · have hst : s.lt t = false := by
        by_contra hst
        have hloop := Double.lt_trans hts (by simpa using hst)
        rw [Double.lt_irrefl] at hloop
        cases hloop
      simp [hnan, hst, hts]

/-- From a time to itself there is no length. -/
lemma between_self (t : Double) : (between t t).min.lt (between t t).max = false := by
  rw [← Bool.not_eq_true, between_lt_iff, Double.lt_irrefl]
  simp

/-! ## Steps -/

/-- The time after some of several equal steps over a range. -/
def step (r : AxisRange) (i steps : Nat) : Double :=
  r.min.add (((Double.ofNat i).div (Double.ofNat steps)).mul r.width)

/-- The range reaches from `a` to `b`.  Both are at most two to the `n`, and a step over the range
is not shorter than two to the `n - 46`, which is 64 steps of doubles of that size. -/
structure Resolves (r : AxisRange) (steps : Nat) (n : Int) (a b : ℚ) : Prop where
  min : r.min.value? = some a
  max : r.max.value? = some b
  min_le : |a| ≤ 2 ^ n
  max_le : |b| ≤ 2 ^ n
  small : -1022 ≤ n
  large : n ≤ 1019
  long : steps * 2 ^ (n - 46) ≤ b - a

lemma two_zpow_add (n k : Int) : (2 : ℚ) ^ (n + k) = 2 ^ k * 2 ^ n := by
  rw [zpow_add₀ two_ne_zero, mul_comm]

/-- The error of numbers that are some powers of two larger. -/
lemma two_zpow_add_sub (n k : Int) : (2 : ℚ) ^ (n + k - 52) = 2 ^ k * 2 ^ (n - 52) := by
  rw [add_sub_right_comm, two_zpow_add]

lemma two_zpow_sub_le (n : Int) : (2 : ℚ) ^ (n - 52) ≤ 2 ^ n / 8 := by
  have heighth : (2 : ℚ) ^ n / 8 = 2 ^ (n - 3) := by
    rw [zpow_sub₀ two_ne_zero]
    norm_num
  rw [heighth]
  exact zpow_le_zpow_right₀ one_le_two (by omega)

/-- The errors of two factors in their product. -/
lemma product_error {x y u v errorX errorY boundY : ℚ} (hx : |x - u| ≤ errorX)
    (hy : |y - v| ≤ errorY) (hu : |u| ≤ 1) (hbound : |y| ≤ boundY) :
    |x * y - u * v| ≤ errorX * boundY + errorY := by
  have hsplit : x * y - u * v = (x - u) * y + u * (y - v) := by ring
  have hfirst : |(x - u) * y| ≤ errorX * boundY := by
    rw [abs_mul]
    exact mul_le_mul hx hbound (abs_nonneg _) ((abs_nonneg _).trans hx)
  have hsecond : |u * (y - v)| ≤ errorY := by
    rw [abs_mul]
    exact (mul_le_of_le_one_left (abs_nonneg _) hu).trans hy
  rw [hsplit]
  exact (abs_add_le _ _).trans (add_le_add hfirst hsecond)

section

variable {i steps : Nat} (hi : i ≤ steps) (hpos : 0 < steps) (hlimit : steps < 2 ^ 53)

include hi hpos in
lemma share_le : |(i : ℚ) / steps| ≤ 1 := by
  have hsteps : (0 : ℚ) < steps := by exact_mod_cast hpos
  rw [abs_of_nonneg (by positivity), div_le_one hsteps]
  exact_mod_cast hi

include hi hpos hlimit in
/-- The share of some steps among all. -/
lemma near_share :
    ((Double.ofNat i).div (Double.ofNat steps)).Near (i / steps) (2 ^ (-52 : Int)) := by
  have hsteps : (steps : ℚ) ≠ 0 := by exact_mod_cast hpos.ne'
  refine Double.near_div (n := 0) (Double.value?_ofNat (hi.trans_lt hlimit))
    (Double.value?_ofNat hlimit) hsteps ?_ ⟨by decide, by decide⟩
  simpa using share_le hi hpos

variable {r : AxisRange} {n : Int} {a b : ℚ} (h : r.Resolves steps n a b)

include h in
lemma Resolves.length_le : |b - a| ≤ 2 * 2 ^ n := by
  have htriangle := abs_sub b a
  have hmin := h.min_le
  have hmax := h.max_le
  linarith

include h in
/-- The length of the range. -/
lemma near_width :
    ∃ w, r.width.value? = some w ∧ |w - (b - a)| ≤ 2 * 2 ^ (n - 52) ∧ |w| ≤ 3 * 2 ^ n := by
  have hsmall := h.small
  have hlarge := h.large
  have hlength := h.length_le
  have hscale : (0 : ℚ) < 2 ^ n := by positivity
  obtain ⟨w, hw, herror⟩ := Double.near_sub (n := n + 1) h.max h.min
    (by rw [two_zpow_add, zpow_one]; exact hlength) ⟨by omega, by omega⟩
  rw [two_zpow_add_sub, zpow_one] at herror
  refine ⟨w, hw, herror, ?_⟩
  have htriangle := abs_sub_abs_le_abs_sub w (b - a)
  have hunit := two_zpow_sub_le n
  linarith

include hi hpos hlimit h in
/-- The time from the start of the range. -/
lemma near_offset :
    ∃ offset, (((Double.ofNat i).div (Double.ofNat steps)).mul r.width).value? = some offset ∧
      |offset - i / steps * (b - a)| ≤ 9 * 2 ^ (n - 52) ∧ |offset| ≤ 4 * 2 ^ n := by
  have hsmall := h.small
  have hlarge := h.large
  have hshare := share_le hi hpos
  have hscale : (0 : ℚ) < 2 ^ n := by positivity
  have hunit := two_zpow_sub_le n
  obtain ⟨share, hshare?, hshareError⟩ := near_share hi hpos hlimit
  obtain ⟨w, hw, hwError, hwBound⟩ := near_width h
  have hexact : |i / steps * (b - a)| ≤ 2 * 2 ^ n := by
    rw [abs_mul]
    exact (mul_le_of_le_one_left (abs_nonneg _) hshare).trans h.length_le
  have hfactors : |share * w - i / steps * (b - a)| ≤ 5 * 2 ^ (n - 52) := by
    have hproduct := product_error hshareError hwError hshare hwBound
    have hscale : (2 : ℚ) ^ (-52 : Int) * (3 * 2 ^ n) = 3 * 2 ^ (n - 52) := by
      rw [sub_eq_add_neg, two_zpow_add]
      ring
    rw [hscale] at hproduct
    linarith
  have hbound : |share * w| ≤ 2 ^ 2 * 2 ^ n := by
    have htriangle := abs_sub_abs_le_abs_sub (share * w) (i / steps * (b - a))
    linarith
  obtain ⟨offset, hoffset, herror⟩ := Double.near_mul (n := n + 2) hshare? hw
    (by rw [two_zpow_add]; exact hbound) ⟨by omega, by omega⟩
  rw [two_zpow_add_sub] at herror
  refine ⟨offset, hoffset, ?_, ?_⟩
  · have htriangle := abs_sub_le offset (share * w) (i / steps * (b - a))
    linarith
  · have htriangle := abs_sub_abs_le_abs_sub offset (i / steps * (b - a))
    have htriangle' := abs_sub_le offset (share * w) (i / steps * (b - a))
    linarith

include hi hpos hlimit h in
/-- The time after some steps is near the exact one. -/
lemma near_step : (r.step i steps).Near (a + i / steps * (b - a)) (17 * 2 ^ (n - 52)) := by
  have hsmall := h.small
  have hlarge := h.large
  obtain ⟨offset, hoffset, hoffsetError, hoffsetBound⟩ := near_offset hi hpos hlimit h
  have hbound : |a + offset| ≤ 2 ^ 3 * 2 ^ n := by
    have hscale : (0 : ℚ) < 2 ^ n := by positivity
    have htriangle := abs_add_le a offset
    have hmin := h.min_le
    linarith
  obtain ⟨time, htime, herror⟩ := Double.near_add (n := n + 3) h.min hoffset
    (by rw [two_zpow_add]; exact hbound) ⟨by omega, by omega⟩
  rw [two_zpow_add_sub] at herror
  refine ⟨time, htime, ?_⟩
  have htriangle := abs_sub_le time (a + offset) (a + i / steps * (b - a))
  rw [add_sub_add_left_eq_sub] at htriangle
  linarith

end

/-- **No two steps lead to the same time.** -/
theorem step_lt_step {r : AxisRange} {i j steps : Nat} {n : Int} {a b : ℚ}
    (h : r.Resolves steps n a b) (hij : i < j) (hj : j ≤ steps) (hlimit : steps < 2 ^ 53) :
    (r.step i steps).lt (r.step j steps) = true := by
  have hpos : 0 < steps := by omega
  have hsteps : (0 : ℚ) < steps := by exact_mod_cast hpos
  obtain ⟨p, hp, hperror⟩ := near_step (hij.le.trans hj) hpos hlimit h
  obtain ⟨q, hq, hqerror⟩ := near_step hj hpos hlimit h
  rw [Double.lt_iff_of_value? hp hq]
  have hlong : 64 * 2 ^ (n - 52) ≤ (b - a) / steps := by
    have hpower : (2 : ℚ) ^ (n - 46) = 64 * 2 ^ (n - 52) := by
      rw [show n - 46 = n + 6 - 52 by ring, two_zpow_add_sub]
      norm_num
    have hlong := h.long
    rw [hpower] at hlong
    rw [le_div_iff₀ hsteps]
    linarith
  have hunit : (0 : ℚ) < 2 ^ (n - 52) := by positivity
  have hgap : i / steps * (b - a) + (b - a) / steps ≤ j / steps * (b - a) := by
    have hnext : (i : ℚ) + 1 ≤ j := by exact_mod_cast hij
    have hfactor : (0 : ℚ) ≤ (b - a) / steps := by linarith
    calc (i : ℚ) / steps * (b - a) + (b - a) / steps
        = (i + 1) * ((b - a) / steps) := by ring
      _ ≤ j * ((b - a) / steps) := mul_le_mul_of_nonneg_right hnext hfactor
      _ = j / steps * (b - a) := by ring
  have hbelow := (abs_le.1 hperror).2
  have habove := (abs_le.1 hqerror).1
  linarith

end AxisRange

end Meterboard
