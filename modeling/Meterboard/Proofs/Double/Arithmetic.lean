import Mathlib.Data.Nat.Cast.Order.Field
import Meterboard.Proofs.Double.Rounding

/-!
# Sums, products and quotients of doubles

Each operation is exact up to one step of doubles of the size of its result: a result of at most two
to the `n` is off by at most two to the `n - 52`.

**Operands.**  `Machine.read_cases` — the machine reads zero or a full significand.  A sum brings
two significands to the smaller exponent (`aligned_value`), and a difference is a sum with the other
sign (`sub_eq_add_neg`); a quotient starts from digits enough to fill one (`divCore_bounds`).

**Operations.**  `Double.near_add`, `near_sub`, `near_mul`, `near_div`.
-/

namespace Meterboard

namespace Machine

open Float.Model
open Float.Model.UnpackedFloat (decreaseExponent)

/-! ## Operands -/

/-- The machine reads zero, or a significand that is full unless the exponent is the smallest. -/
lemma read_cases {x : Double} {q : ℚ} (h : x.value? = some q) :
    (read x = .zero (sign x.isNegative) ∧ q = 0) ∨
      ∃ (m : Nat) (e : Int) (hm : 0 < m), read x = .finite (sign x.isNegative) m e hm ∧
        q = Double.signed x.isNegative (m * 2 ^ e) ∧ (2 ^ 52 ≤ m ∨ e = -1074) := by
  obtain ⟨hfinite, rfl⟩ := Double.value?_eq_some_iff.1 h
  rcases Nat.eq_zero_or_pos x.significand with hzero | hpos
  · refine .inl ⟨dif_pos hzero, ?_⟩
    rw [hzero]
    cases x.isNegative <;> simp [Double.signed]
  · refine .inr ⟨_, _, hpos, unpacked_of_pos _ hpos _, rfl, ?_⟩
    have hfull := (Double.canonical_parts hfinite).full
    omega

/-- The double that the machine reads with the other sign stands for the negative. -/
lemma exists_neg {x : Double} {q : ℚ} (h : x.value? = some q) :
    ∃ y : Double, y.value? = some (-q) ∧ read y = (read x).neg := by
  obtain ⟨hfinite, rfl⟩ := Double.value?_eq_some_iff.1 h
  have hcanonical := Double.canonical_parts hfinite
  obtain ⟨-, hnegative, hsignificand, hexponent⟩ :=
    Double.parts_ofMagnitude (!x.isNegative) hcanonical
  refine ⟨_, Double.value?_ofMagnitude (!x.isNegative) hcanonical |>.trans ?_, ?_⟩
  · cases x.isNegative <;> simp [Double.signed]
  · unfold read unpacked
    rw [hnegative, hsignificand, hexponent]
    split <;> cases x.isNegative <;> rfl

/-- A difference is a sum with the other sign. -/
lemma sub_eq_add_neg (u v : UnpackedFloat) :
    UnpackedFloat.sub .binary64 u v = UnpackedFloat.add .binary64 u v.neg := by
  have hsign : ∀ (s : UnpackedFloat.Sign) (k : Int), (-s).apply k = -s.apply k := by
    rintro (_ | _) k
    · exact (neg_neg k).symm
    · rfl
  cases u <;> cases v <;> try rfl
  simp only [UnpackedFloat.sub, UnpackedFloat.add, UnpackedFloat.neg, hsign, Int.sub_eq_add_neg]

/-- A significand at a smaller exponent, with its sign. -/
def aligned (negative : Bool) (m : Nat) (e t : Int) : Int :=
  (sign negative).apply (decreaseExponent m e t).1

/-- Two significands are brought to the smaller exponent. -/
lemma aligned_value (negative : Bool) (m : Nat) {e t : Int} (h : t ≤ e) :
    (aligned negative m e t : ℚ) * 2 ^ t = Double.signed negative (m * 2 ^ e) := by
  obtain ⟨k, rfl⟩ : ∃ k : Nat, t = e - k := ⟨(e - t).toNat, by omega⟩
  have hshift : (decreaseExponent m e (e - k)).1 = m * 2 ^ k := by
    rw [decreaseExponent, Nat.shiftLeft_eq, sub_sub_cancel, Int.toNat_natCast]
  rw [aligned, hshift, ← shifted_value m k e]
  cases negative <;> simp [Double.signed, sign, UnpackedFloat.Sign.apply]

lemma sign_mul (negative negative' : Bool) :
    sign negative * sign negative' = sign (negative ^^ negative') := by
  cases negative <;> cases negative' <;> rfl

lemma sign_div (negative negative' : Bool) :
    sign negative / sign negative' = sign (negative ^^ negative') := by
  cases negative <;> cases negative' <;> rfl

/-- A quotient has enough digits, and lies less than one step above what is left of it. -/
lemma divCore_bounds {m m' : Nat} (hm : 0 < m) (hm' : 0 < m') (e e' : Int) :
    let parts := UnpackedFloat.divCore .binary64 m e m' e'
    Fills parts.1 parts.2.1 ∧
      (parts.1 : ℚ) * 2 ^ parts.2.1 ≤ m * 2 ^ e / (m' * 2 ^ e') ∧
      m * 2 ^ e / (m' * 2 ^ e') ≤ ((parts.1 : ℚ) + 1) * 2 ^ parts.2.1 := by
  intro parts
  obtain ⟨t, ht⟩ : ∃ t : Int,
      t = min (e - e') (max ((m.log2 + e : Int) - (m'.log2 + e') - 53) (-1074)) := ⟨_, rfl⟩
  obtain ⟨k, hk⟩ : ∃ k : Nat, (k : Int) = e - e' - t := ⟨(e - e' - t).toNat, by omega⟩
  have hparts : parts.1 = m * 2 ^ k / m' ∧ parts.2.1 = t := by
    have htarget : Format.binary64.targetExponent (totalExponent m e - totalExponent m' e')
        = max ((m.log2 + e : Int) - (m'.log2 + e') - 53) (-1074) := by
      show max ((m.log2 : Int) + 1 + e - (m'.log2 + 1 + e') - 53) (-1074) = _
      congr 1
      ring
    simp only [parts, UnpackedFloat.divCore, htarget, ← ht, ← hk, Int.toNat_natCast,
      Nat.shiftLeft_eq, and_self]
  rw [hparts.1, hparts.2]
  -- the quotient of the significands, the first one shifted
  have hvalue : (m : ℚ) * 2 ^ e / (m' * 2 ^ e') = ((m * 2 ^ k : Nat) : ℚ) / m' * 2 ^ t := by
    have hexponent : t = e - e' - k := by omega
    have hshift := shifted_value m k (e - e')
    rw [hexponent, div_mul_eq_mul_div, hshift, zpow_sub₀ two_ne_zero]
    ring
  have hpos : (0 : ℚ) ≤ 2 ^ t := by positivity
  have hpos' : (0 : ℚ) < m' := by exact_mod_cast hm'
  refine ⟨?_, ?_, ?_⟩
  · rcases le_or_gt t (-1074) with hsmall | hlarge
    · exact .inr hsmall
    · refine .inl ((Nat.le_div_iff_mul_le hm').2 ?_)
      calc 2 ^ 52 * m'
          ≤ 2 ^ 52 * 2 ^ (m'.log2 + 1) := Nat.mul_le_mul_left _ Nat.lt_log2_self.le
        _ = 2 ^ (m'.log2 + 53) := by ring
        _ ≤ 2 ^ (m.log2 + k) := Nat.pow_le_pow_right (by decide) (by omega)
        _ = 2 ^ m.log2 * 2 ^ k := pow_add _ _ _
        _ ≤ m * 2 ^ k := Nat.mul_le_mul_right _ (Nat.log2_self_le hm.ne')
  · rw [hvalue]
    exact mul_le_mul_of_nonneg_right Nat.cast_div_le hpos
  · rw [hvalue]
    refine mul_le_mul_of_nonneg_right ?_ hpos
    rw [div_le_iff₀ hpos']
    have hlt := Nat.lt_mul_div_succ (m * 2 ^ k) hm'
    rw [mul_comm m'] at hlt
    exact_mod_cast hlt.le

variable {a b : Double} {p q : ℚ}

lemma isFinite_of_value? (h : a.value? = some p) : a.isFinite = true :=
  (Double.value?_eq_some_iff.1 h).1

lemma add_eq (ha : a.value? = some p) (hb : b.value? = some q) :
    a.add b = write (UnpackedFloat.add .binary64 (read a) (read b)) := by
  rw [← unpack_toFloat (isFinite_of_value? ha), ← unpack_toFloat (isFinite_of_value? hb)]
  rfl

lemma sub_eq (ha : a.value? = some p) (hb : b.value? = some q) :
    a.sub b = write (UnpackedFloat.sub .binary64 (read a) (read b)) := by
  rw [← unpack_toFloat (isFinite_of_value? ha), ← unpack_toFloat (isFinite_of_value? hb)]
  rfl

lemma mul_eq (ha : a.value? = some p) (hb : b.value? = some q) :
    a.mul b = write (UnpackedFloat.mul .binary64 (read a) (read b)) := by
  rw [← unpack_toFloat (isFinite_of_value? ha), ← unpack_toFloat (isFinite_of_value? hb)]
  rfl

lemma div_eq (ha : a.value? = some p) (hb : b.value? = some q) :
    a.div b = write (UnpackedFloat.div .binary64 (read a) (read b)) := by
  rw [← unpack_toFloat (isFinite_of_value? ha), ← unpack_toFloat (isFinite_of_value? hb)]
  rfl

end Machine

namespace Double

open Float.Model
open Machine (read write sign)

variable {a b : Double} {p q : ℚ} {n : Int}

/-! ## Operations -/

/-- A sum is off by one step at most. -/
theorem near_add (ha : a.value? = some p) (hb : b.value? = some q) (hn : |p + q| ≤ 2 ^ n)
    (hscale : Machine.Scale n) : (a.add b).Near (p + q) (2 ^ (n - 52)) := by
  have herror : (0 : ℚ) ≤ 2 ^ (n - 52) := by positivity
  rw [Machine.add_eq ha hb]
  rcases Machine.read_cases ha with ⟨hreada, rfl⟩ | ⟨m, e, hm, hreada, hp, -⟩
  · rcases Machine.read_cases hb with ⟨hreadb, rfl⟩ | ⟨m', e', hm', hreadb, -, -⟩
    · obtain ⟨s, hs⟩ : ∃ s, UnpackedFloat.add .binary64 (read a) (read b) = .zero s := by
        rw [hreada, hreadb, UnpackedFloat.add]
        split <;> exact ⟨_, rfl⟩
      rw [hs, add_zero]
      exact near_of_value? (Machine.value?_write_zero s) herror
    · have hb' : UnpackedFloat.add .binary64 (read a) (read b) = read b := by
        rw [hreada, hreadb]
        rfl
      rw [hb', Machine.write_read (Machine.isFinite_of_value? hb), zero_add]
      exact near_of_value? hb herror
  · rcases Machine.read_cases hb with ⟨hreadb, rfl⟩ | ⟨m', e', hm', hreadb, hq, -⟩
    · have ha' : UnpackedFloat.add .binary64 (read a) (read b) = read a := by
        rw [hreada, hreadb]
        rfl
      rw [ha', Machine.write_read (Machine.isFinite_of_value? ha), add_zero]
      exact near_of_value? ha herror
    · have hsum := Machine.near_normalize
        (Machine.aligned a.isNegative m e (Min.min e e')
          + Machine.aligned b.isNegative m' e' (Min.min e e')) (Min.min e e') .positive (n := n)
      rw [Int.cast_add, add_mul, Machine.aligned_value _ _ (min_le_left e e'),
        Machine.aligned_value _ _ (min_le_right e e'), ← hp, ← hq] at hsum
      rw [hreada, hreadb]
      exact hsum hn hscale

/-- A difference is off by one step at most. -/
theorem near_sub (ha : a.value? = some p) (hb : b.value? = some q) (hn : |p - q| ≤ 2 ^ n)
    (hscale : Machine.Scale n) : (a.sub b).Near (p - q) (2 ^ (n - 52)) := by
  obtain ⟨c, hc, hread⟩ := Machine.exists_neg hb
  have hsum : a.sub b = a.add c := by
    rw [Machine.sub_eq ha hb, Machine.add_eq ha hc, hread, Machine.sub_eq_add_neg]
  rw [hsum, sub_eq_add_neg]
  rw [sub_eq_add_neg] at hn
  exact near_add ha hc hn hscale

lemma signed_mul_signed (negative negative' : Bool) (p q : ℚ) :
    signed negative p * signed negative' q = signed (negative ^^ negative') (p * q) := by
  cases negative <;> cases negative' <;> simp [signed]

lemma abs_signed (negative : Bool) {q : ℚ} (h : 0 ≤ q) : |signed negative q| = q := by
  cases negative
  · exact abs_of_nonneg h
  · exact (abs_neg q).trans (abs_of_nonneg h)

/-- A product is off by one step at most. -/
theorem near_mul (ha : a.value? = some p) (hb : b.value? = some q) (hn : |p * q| ≤ 2 ^ n)
    (hscale : Machine.Scale n) : (a.mul b).Near (p * q) (2 ^ (n - 52)) := by
  have herror : (0 : ℚ) ≤ 2 ^ (n - 52) := by positivity
  rw [Machine.mul_eq ha hb]
  rcases Machine.read_cases ha with ⟨hreada, rfl⟩ | ⟨m, e, hm, hreada, hp, hfull⟩
  · obtain ⟨s, hs⟩ : ∃ s, UnpackedFloat.mul .binary64 (read a) (read b) = .zero s := by
      rcases Machine.read_cases hb with ⟨hreadb, -⟩ | ⟨m', e', hm', hreadb, -, -⟩ <;>
        rw [hreada, hreadb] <;> exact ⟨_, rfl⟩
    rw [hs, zero_mul]
    exact near_of_value? (Machine.value?_write_zero s) herror
  · rcases Machine.read_cases hb with ⟨hreadb, rfl⟩ | ⟨m', e', hm', hreadb, hq, hfull'⟩
    · rw [hreada, hreadb, mul_zero]
      exact near_of_value? (Machine.value?_write_zero _) herror
    · have hfills : Machine.Fills (m * m') (e + e') := by
        rcases hfull with hfull | hsmallest
        · exact .inl (hfull.trans (Nat.le_mul_of_pos_right m hm'))
        · rcases hfull' with hfull' | hsmallest'
          · exact .inl (hfull'.trans (Nat.le_mul_of_pos_left m' hm))
          · exact .inr (by omega)
      have hvalue : p * q = signed (a.isNegative ^^ b.isNegative)
          (((m * m' : Nat) : ℚ) * 2 ^ (e + e')) := by
        rw [hp, hq, signed_mul_signed, zpow_add₀ two_ne_zero]
        push_cast
        congr 1
        ring
      rw [hvalue, abs_signed _ (by positivity)] at hn
      rw [hreada, hreadb, hvalue, UnpackedFloat.mul, Machine.sign_mul]
      refine Machine.near_roundWithAccuracy _ hfills .exact le_rfl ?_ hn hscale
      exact mul_le_mul_of_nonneg_right (le_add_of_nonneg_right zero_le_one) (by positivity)

/-- A quotient is off by one step at most. -/
theorem near_div (ha : a.value? = some p) (hb : b.value? = some q) (hzero : q ≠ 0)
    (hn : |p / q| ≤ 2 ^ n) (hscale : Machine.Scale n) :
    (a.div b).Near (p / q) (2 ^ (n - 52)) := by
  have herror : (0 : ℚ) ≤ 2 ^ (n - 52) := by positivity
  rw [Machine.div_eq ha hb]
  obtain ⟨-, hnone⟩ | ⟨m', e', hm', hreadb, hq, -⟩ := Machine.read_cases hb
  · exact absurd hnone hzero
  rcases Machine.read_cases ha with ⟨hreada, rfl⟩ | ⟨m, e, hm, hreada, hp, -⟩
  · rw [hreada, hreadb, zero_div]
    exact near_of_value? (Machine.value?_write_zero _) herror
  · obtain ⟨hfills, hlow, hhigh⟩ := Machine.divCore_bounds hm hm' e e'
    have hvalue : p / q = signed (a.isNegative ^^ b.isNegative)
        (m * 2 ^ e / (m' * 2 ^ e')) := by
      rw [hp, hq]
      cases a.isNegative <;> cases b.isNegative <;> simp [signed, neg_div, div_neg]
    rw [hvalue, abs_signed _ (by positivity)] at hn
    rw [hreada, hreadb, hvalue, UnpackedFloat.div, Machine.sign_div]
    exact Machine.near_roundWithAccuracy _ hfills _ hlow hhigh hn hscale

end Double

end Meterboard
