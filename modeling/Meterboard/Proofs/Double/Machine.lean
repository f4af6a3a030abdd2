import Mathlib
import Meterboard.Proofs.Double.Value

/-!
# Doubles inside the machine

For sums and products a double is handed to the machine's floating-point type.  That type is bits as
well, but it computes with a sign, a significand and an exponent that it reads off them, and it
writes them back.  This file says that it reads and writes what a double does.

**Both ways.**  `Machine.read` is what the machine reads of a finite double, and `Machine.write` the
double that it writes.  `unpack_toFloat` — the first is what it computes with.  `write_read` — what
is written as it was read is the same double.

**Values.**  `value?_write_unpacked` — what is written stands for its significand times a power of
two; zero is apart (`value?_write_zero`).
-/

namespace Meterboard

namespace Machine

open Float.Model
open Float.Model.UnpackedFloat (Sign packComponents unpackSign)

/-- The sign bit as the machine has it. -/
def sign (negative : Bool) : Sign := if negative then .negative else .positive

/-- A significand and an exponent as the machine has them; zero is apart. -/
def unpacked (negative : Bool) (significand : Nat) (exponent : Int) : UnpackedFloat :=
  if h : significand = 0 then .zero (sign negative)
  else .finite (sign negative) significand exponent (Nat.pos_of_ne_zero h)

/-- How the machine reads a finite double. -/
def read (x : Double) : UnpackedFloat := unpacked x.isNegative x.significand (x.exponent - 1074)

/-- The double that the machine writes. -/
def write (u : UnpackedFloat) : Double := .ofFloat ⟨.pack u⟩

/-! ## Bits -/

lemma toNat_packComponents (s : Sign) (e : BitVec 11) (f : BitVec 52) :
    (packComponents .binary64 s e f).toNat
      = s.toBitVec.toNat * 2 ^ 63 + e.toNat * 2 ^ 52 + f.toNat := by
  have hparts : (packComponents .binary64 s e f).toNat
      = (s.toBitVec.toNat <<< 11 ||| e.toNat) <<< 52 ||| f.toNat := by
    show (s.toBitVec ++ e ++ f).toNat = _
    rw [BitVec.toNat_append, BitVec.toNat_append]
  rw [hparts, ← Nat.shiftLeft_add_eq_or_of_lt e.isLt, ← Nat.shiftLeft_add_eq_or_of_lt f.isLt,
    Nat.shiftLeft_eq, Nat.shiftLeft_eq]
  ring

lemma toNat_bits (x : Double) :
    x.bits.toNat = (sign x.isNegative).toBitVec.toNat * 2 ^ 63 + x.magnitude := by
  have hbits : x.bits.toNat < 2 ^ 64 := x.bits.toNat_lt
  simp only [Double.magnitude, Double.isNegative, Nat.pow_eq]
  by_cases hnegative : 2 ^ 63 ≤ x.bits.toNat
  · have hsign : (sign true).toBitVec.toNat = 1 := rfl
    rw [decide_eq_true hnegative, hsign]
    omega
  · have hsign : (sign false).toBitVec.toNat = 0 := rfl
    rw [decide_eq_false hnegative, hsign]
    omega

lemma bits_eq {x : Double} (h : x.isFinite = true) :
    x.bits.toBitVec = packComponents .binary64 (sign x.isNegative)
      (.ofNat 11 (x.magnitude / 2 ^ 52)) (.ofNat 52 (x.magnitude % 2 ^ 52)) := by
  have hfinite : x.magnitude < 2047 * 2 ^ 52 := of_decide_eq_true h
  refine BitVec.eq_of_toNat_eq ?_
  rw [toNat_packComponents, BitVec.toNat_ofNat, BitVec.toNat_ofNat, UInt64.toNat_toBitVec,
    toNat_bits]
  omega

/-- The exponent field of a finite double is not the one of infinity. -/
lemma exponentField_ne {x : Double} (h : x.isFinite = true) :
    BitVec.ofNat 11 (x.magnitude / 2 ^ 52) ≠ -1#_ := by
  have hfinite : x.magnitude < 2047 * 2 ^ 52 := of_decide_eq_true h
  rw [ne_eq, ← BitVec.toNat_inj, BitVec.toNat_ofNat, show (-1#11).toNat = 2047 by decide]
  omega

lemma unpacked_of_pos (negative : Bool) {significand : Nat} (h : 0 < significand)
    (exponent : Int) :
    unpacked negative significand exponent = .finite (sign negative) significand exponent h :=
  dif_neg h.ne'

/-- The machine reads a finite double as its significand and exponent. -/
lemma unpack_bits {x : Double} (h : x.isFinite = true) :
    UnpackedFloat.unpack .binary64 x.bits.toBitVec = read x := by
  have hfinite : x.magnitude < 2047 * 2 ^ 52 := of_decide_eq_true h
  have hmantissa : (BitVec.ofNat 52 (x.magnitude % 2 ^ 52)).toNat = x.magnitude % 2 ^ 52 := by
    rw [BitVec.toNat_ofNat, Nat.mod_mod]
  have hexponent : (BitVec.ofNat 11 (x.magnitude / 2 ^ 52)).toNat = x.magnitude / 2 ^ 52 := by
    rw [BitVec.toNat_ofNat, Nat.mod_eq_of_lt (by omega)]
  have hsmall : BitVec.ofNat 11 (x.magnitude / 2 ^ 52) = 0#_ ↔ x.magnitude < 2 ^ 52 := by
    rw [← BitVec.toNat_inj, hexponent, BitVec.toNat_zero]
    omega
  have hnone : BitVec.ofNat 52 (x.magnitude % 2 ^ 52) = 0#_ ↔ x.magnitude % 2 ^ 52 = 0 := by
    rw [← BitVec.toNat_inj, hmantissa, BitVec.toNat_zero]
  rw [bits_eq h, UnpackedFloat.unpack, read]
  simp only [UnpackedFloat.unpackExponent_packComponents,
    UnpackedFloat.unpackMantissa_packComponents, UnpackedFloat.unpackSign_packComponents,
    Sign.ofBitVec_toBitVec, exponentField_ne h, if_false, hsmall, hnone, hexponent, hmantissa]
  have hbias : ((Format.binary64.exponentBias : Nat) : Int) = 1023 := rfl
  by_cases hlt : x.magnitude < 2 ^ 52
  · have hsignificand : x.significand = x.magnitude % 2 ^ 52 := by
      rw [Double.significand, Nat.pow_eq, if_pos hlt]
      omega
    have hsmallest : x.exponent = 0 := by
      rw [Double.exponent, Nat.pow_eq]
      omega
    rw [if_pos hlt, unpacked, hsignificand, hsmallest, hbias]
    congr! 2
    omega
  · have hsignificand : x.significand = 2 ^ 52 + x.magnitude % 2 ^ 52 := by
      rw [Double.significand, Nat.pow_eq, if_neg hlt]
    have hpos : 0 < x.significand := by omega
    have hdigits : (1#1 ++ BitVec.ofNat 52 (x.magnitude % 2 ^ 52)).toNat = x.significand := by
      rw [BitVec.toNat_append, ← Nat.shiftLeft_add_eq_or_of_lt (BitVec.isLt _), hmantissa,
        hsignificand]
      rfl
    rw [if_neg hlt, unpacked_of_pos _ hpos, hbias]
    simp only [hdigits]
    congr 1
    rw [Double.exponent, Nat.pow_eq]
    omega

/-- The machine writes a finite double as it reads it. -/
lemma pack_read {x : Double} (h : x.isFinite = true) :
    UnpackedFloat.pack .binary64 (read x) = x.bits.toBitVec := by
  have hnumber : @UnpackedFloat.isNaNBits .binary64 x.bits.toBitVec = false := by
    rw [bits_eq h, UnpackedFloat.isNaNBits, UnpackedFloat.unpackExponent_packComponents,
      decide_eq_false_iff_not]
    exact fun hnan => exponentField_ne h hnan.1
  rw [← unpack_bits h, UnpackedFloat.pack_unpack, hnumber]
  rfl

lemma unpack_toFloat {x : Double} (h : x.isFinite = true) : x.toFloat.toModel.unpack = read x := by
  show UnpackedFloat.unpack .binary64 (UnpackedFloat.pack .binary64
    (UnpackedFloat.unpack .binary64 x.bits.toBitVec)) = _
  rw [unpack_bits h, pack_read h, unpack_bits h]

/-- The machine writes the double with this significand and exponent. -/
lemma write_unpacked (negative : Bool) {significand exponent : Nat}
    (h : Double.Canonical significand exponent) :
    write (unpacked negative significand (exponent - 1074))
      = .ofMagnitude negative (exponent * 2 ^ 52 + significand) := by
  obtain ⟨hfinite, hnegative, hsignificand, hexponent⟩ := Double.parts_ofMagnitude negative h
  have hpack := pack_read hfinite
  rw [read, hnegative, hsignificand, hexponent] at hpack
  show Double.mk (.ofBitVec (UnpackedFloat.pack .binary64 _)) = _
  rw [hpack]

/-- What the machine writes as it read it is the same double. -/
lemma write_read {x : Double} (h : x.isFinite = true) : write (read x) = x := by
  show Double.mk (.ofBitVec (UnpackedFloat.pack .binary64 (read x))) = x
  rw [pack_read h]

lemma value?_write_unpacked (negative : Bool) {significand exponent : Nat}
    (h : Double.Canonical significand exponent) :
    (write (unpacked negative significand (exponent - 1074))).value?
      = some (Double.signed negative (significand * 2 ^ ((exponent : Int) - 1074))) := by
  rw [write_unpacked negative h, Double.value?_ofMagnitude negative h]

lemma value?_write_zero (s : Sign) : (write (.zero s)).value? = some 0 := by
  have hzero : ∀ negative, (write (.zero (sign negative))).value? = some 0 := by
    intro negative
    have hcanonical : Double.Canonical 0 0 := ⟨by decide, .inr rfl, by decide⟩
    have hvalue := value?_write_unpacked negative hcanonical
    rw [unpacked, dif_pos rfl] at hvalue
    rw [hvalue]
    cases negative <;> simp [Double.signed]
  cases s with
  | positive => exact hzero false
  | negative => exact hzero true

end Machine

end Meterboard
