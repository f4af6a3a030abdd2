import Meterboard.Proofs.Double.Value

/-!
# The order of doubles

Doubles are compared by an integer each, but a NaN compares with nothing.  Among numbers, the
smaller and the larger of two are one of the two, and lie below and above both.

* `lt_iff`, `le_iff` — the comparisons as those of integers.
* `min_mem`, `min_le` and `max_mem`, `le_max` — the smaller and the larger of two.
* `isNaN_ofNat` — what is nearest to a whole number is a number.
-/

namespace Meterboard

namespace Double

lemma lt_iff {a b : Double} :
    a.lt b = true ↔ a.isNaN = false ∧ b.isNaN = false ∧ a.key < b.key := by
  simp [lt, and_assoc]

lemma le_iff {a b : Double} :
    a.le b = true ↔ a.isNaN = false ∧ b.isNaN = false ∧ a.key ≤ b.key := by
  simp [le, and_assoc]

lemma le_refl {a : Double} (ha : a.isNaN = false) : a.le a = true :=
  le_iff.2 ⟨ha, ha, Int.le_refl _⟩

lemma le_trans {a b c : Double} (hab : a.le b = true) (hbc : b.le c = true) : a.le c = true := by
  rw [le_iff] at hab hbc ⊢
  exact ⟨hab.1, hbc.2.1, Int.le_trans hab.2.2 hbc.2.2⟩

/-- Of two numbers one is at most the other. -/
lemma le_of_not_lt {a b : Double} (ha : a.isNaN = false) (hb : b.isNaN = false)
    (h : ¬ b.lt a = true) : a.le b = true := by
  rw [lt_iff] at h
  rw [le_iff]
  exact ⟨ha, hb, Int.not_lt.1 fun hlt => h ⟨hb, ha, hlt⟩⟩

lemma le_of_lt {a b : Double} (h : a.lt b = true) : a.le b = true := by
  rw [lt_iff] at h
  exact le_iff.2 ⟨h.1, h.2.1, Int.le_of_lt h.2.2⟩

section

variable {a b : Double}

/-- The smaller of two is one of the two. -/
lemma min_mem {xs : List Double} (ha : a ∈ xs) (hb : b ∈ xs) : a.min b ∈ xs := by
  unfold Double.min
  split
  · exact hb
  · split
    · exact hb
    · exact ha

lemma max_mem {xs : List Double} (ha : a ∈ xs) (hb : b ∈ xs) : a.max b ∈ xs := by
  unfold Double.max
  split
  · exact hb
  · split
    · exact hb
    · exact ha

/-- The smaller of two numbers is below both. -/
lemma min_le (ha : a.isNaN = false) (hb : b.isNaN = false) :
    (a.min b).le a = true ∧ (a.min b).le b = true := by
  unfold Double.min
  rw [if_neg (by simp [ha])]
  split
  · rename_i hlt
    exact ⟨le_of_lt hlt, le_refl hb⟩
  · rename_i hnot
    exact ⟨le_refl ha, le_of_not_lt ha hb hnot⟩

/-- The larger of two numbers is above both. -/
lemma le_max (ha : a.isNaN = false) (hb : b.isNaN = false) :
    a.le (a.max b) = true ∧ b.le (a.max b) = true := by
  unfold Double.max
  rw [if_neg (by simp [ha])]
  split
  · rename_i hlt
    exact ⟨le_of_lt hlt, le_refl hb⟩
  · rename_i hnot
    exact ⟨le_refl ha, le_of_not_lt hb ha hnot⟩

end

lemma nearestMagnitude_le (num den : Nat) : nearestMagnitude num den ≤ infiniteMagnitude := by
  unfold nearestMagnitude
  dsimp only
  split
  · exact Nat.zero_le _
  · split
    · exact Nat.le_refl _
    · omega

/-- The double nearest to a whole number is a number, if only an infinite one. -/
lemma isNaN_ofNat (n : Nat) : (ofNat n).isNaN = false := by
  have hle := nearestMagnitude_le n 1
  have hfits : nearestMagnitude n 1 < 2 ^ 63 := Nat.lt_of_le_of_lt hle (by decide)
  have hmagnitude : (ofNat n).magnitude = nearestMagnitude n 1 :=
    (magnitude_ofMagnitude false hfits).1
  rw [isNaN, hmagnitude, decide_eq_false_iff_not]
  exact Nat.not_lt.2 hle

end Double

end Meterboard
