import Meterboard.Cbor.Item
import Mathlib.Tactic.Ring

/-!
# Heads of CBOR items

A head may be spelled in up to five ways: a small number inside its first byte, and any number in
one, two, four or eight bytes behind it.  The reader takes all of them, the writer only ever
produces the shortest.

* `Head.Spelled` — the spellings of a head.
* `head?_append`, `exists_spelled_of_head?` — the reader takes exactly these.
* `spelled_head` — what the writer produces is one of them.
-/

namespace Meterboard.Cbor

/-! ## Numbers in bytes -/

@[simp] lemma length_bigEndian (width n : Nat) : (bigEndian width n).length = width := by
  induction width with
  | zero => rfl
  | succ width ih => rw [bigEndian, List.length_cons, ih]

/-- Reading on from a number that is already there. -/
lemma foldl_bigEndian (width n start : Nat) :
    (bigEndian width n).foldl (fun m b => 256 * m + b.toNat) start =
      start * 256 ^ width + n % 256 ^ width := by
  induction width generalizing start with
  | zero => simp [bigEndian, Nat.mod_one]
  | succ width ih =>
      have hbyte : (n / Nat.pow 256 width).toUInt8.toNat = n / 256 ^ width % 256 := by
        simp [Nat.toUInt8, Nat.pow_eq]
      rw [bigEndian, List.foldl_cons, ih, hbyte, Nat.mod_pow_succ, Nat.pow_succ]
      ring

/-- A number that fits is read back from its bytes. -/
theorem ofBigEndian_bigEndian {width n : Nat} (h : n < 256 ^ width) :
    ofBigEndian (bigEndian width n) = n := by
  rw [ofBigEndian, foldl_bigEndian, Nat.zero_mul, Nat.zero_add, Nat.mod_eq_of_lt h]

/-! ## Parts of the input -/

@[simp] lemma take?_append (front rest : List UInt8) :
    take? front.length (front ++ rest) = some (front, rest) := by
  simp [take?]

lemma of_take? {n : Nat} {bs front rest : List UInt8} (h : take? n bs = some (front, rest)) :
    bs = front ++ rest ∧ front.length = n := by
  simp only [take?, Option.ite_none_right_eq_some, Option.some.injEq, Prod.mk.injEq] at h
  obtain ⟨hlength, rfl, rfl⟩ := h
  exact ⟨(List.take_append_drop n bs).symm, hlength⟩

/-! ## Spellings -/

/-- The first byte of a head holds both. -/
def firstByte (major info : Nat) : UInt8 := (32 * major + info).toUInt8

/-- The spellings of a head: its number inside the first byte, its number in one, two, four or eight
bytes behind it, or no number. -/
inductive Head.Spelled : Head → List UInt8 → Prop
  | short {major n : Nat} (hmajor : major < 8) (hn : n < 24) :
      Spelled ⟨major, n, some n⟩ [firstByte major n]
  | long {major k : Nat} {tail : List UInt8} (hmajor : major < 8) (hk : k < 4)
      (hlength : tail.length = 2 ^ k) :
      Spelled ⟨major, 24 + k, some (ofBigEndian tail)⟩ (firstByte major (24 + k) :: tail)
  | unstated {major : Nat} (hmajor : major < 8) :
      Spelled ⟨major, 31, none⟩ [firstByte major 31]

lemma toNat_firstByte {major info : Nat} (hmajor : major < 8) (hinfo : info < 32) :
    (firstByte major info).toNat = 32 * major + info := by
  simp only [firstByte, Nat.toUInt8, UInt8.toNat_ofNat']
  omega

lemma firstByte_div_mod (b : UInt8) : firstByte (b.toNat / 32) (b.toNat % 32) = b := by
  rw [firstByte, Nat.div_add_mod, Nat.toUInt8, UInt8.ofNat_toNat]

lemma Head.Spelled.major_lt {h : Head} {bs : List UInt8} (hs : h.Spelled bs) : h.major < 8 := by
  cases hs <;> assumption

lemma Head.Spelled.length_pos {h : Head} {bs : List UInt8} (hs : h.Spelled bs) :
    0 < bs.length := by
  cases hs <;> exact Nat.succ_pos _

/-- A spelled head is read, whatever comes behind it. -/
theorem head?_append {h : Head} {bs : List UInt8} (hs : h.Spelled bs) (rest : List UInt8) :
    head? (bs ++ rest) = some (h, rest) := by
  cases hs with
  | @short major n hmajor hn =>
      have hmajor' : (32 * major + n) / 32 = major := by omega
      have hinfo : (32 * major + n) % 32 = n := by omega
      have hbyte := toNat_firstByte hmajor (show n < 32 by omega)
      simp only [List.singleton_append, head?, hbyte, hmajor', hinfo, hn, if_true]
  | @long major k tail hmajor hk hlength =>
      have hmajor' : (32 * major + (24 + k)) / 32 = major := by omega
      have hinfo : (32 * major + (24 + k)) % 32 = 24 + k := by omega
      have hlow : ¬ 24 + k < 24 := by omega
      have hhigh : 24 + k < 28 := by omega
      have hwidth : Nat.pow 2 (24 + k - 24) = tail.length := by
        rw [Nat.add_sub_cancel_left, hlength, Nat.pow_eq]
      have hbyte := toNat_firstByte hmajor (show 24 + k < 32 by omega)
      simp only [List.cons_append, head?, hbyte, hmajor', hinfo, hlow, hhigh, if_true, if_false,
        hwidth, take?_append]
      rfl
  | @unstated major hmajor =>
      have hmajor' : (32 * major + 31) / 32 = major := by omega
      have hinfo : (32 * major + 31) % 32 = 31 := by omega
      simp [head?, toNat_firstByte hmajor (show 31 < 32 by omega), hmajor', hinfo]

/-- What is read as a head is a spelling of it. -/
theorem exists_spelled_of_head? {h : Head} {bs rest : List UInt8}
    (hread : head? bs = some (h, rest)) : ∃ front, bs = front ++ rest ∧ h.Spelled front := by
  cases bs with
  | nil => cases hread
  | cons b bs =>
      have hbyte := firstByte_div_mod b
      have hmajor : b.toNat / 32 < 8 := by
        have hb := b.toNat_lt
        omega
      simp only [head?] at hread
      split at hread
      · rename_i hshort
        simp only [Option.some.injEq, Prod.mk.injEq] at hread
        obtain ⟨rfl, rfl⟩ := hread
        have hs := Head.Spelled.short hmajor hshort
        rw [hbyte] at hs
        exact ⟨[b], rfl, hs⟩
      · rename_i hlow
        split at hread
        · rename_i hlong
          simp only [Option.bind_eq_bind, Option.bind_eq_some_iff] at hread
          obtain ⟨⟨tail, rest'⟩, htake, hread⟩ := hread
          simp only [Option.pure_def, Option.some.injEq, Prod.mk.injEq] at hread
          obtain ⟨rfl, rfl⟩ := hread
          obtain ⟨rfl, hlength⟩ := of_take? htake
          obtain ⟨k, hk⟩ := Nat.exists_eq_add_of_le (Nat.not_lt.1 hlow)
          have hwidth : tail.length = 2 ^ k := by
            rw [hlength, hk, Nat.add_sub_cancel_left, Nat.pow_eq]
          have hs := Head.Spelled.long hmajor (by omega) hwidth
          rw [← hk, hbyte] at hs
          exact ⟨b :: tail, rfl, hs⟩
        · split at hread
          · rename_i hopen
            simp only [Option.some.injEq, Prod.mk.injEq] at hread
            obtain ⟨rfl, rfl⟩ := hread
            have hs := Head.Spelled.unstated hmajor
            rw [← hopen, hbyte] at hs
            exact ⟨[b], rfl, hopen ▸ hs⟩
          · cases hread

/-- The shortest head is a spelling of its number. -/
theorem spelled_head {major n : Nat} (hmajor : major < 8) (hn : n < 2 ^ 64) :
    ∃ info, Head.Spelled ⟨major, info, some n⟩ (head major n) := by
  have hlong : ∀ {k : Nat}, k < 4 → n < 256 ^ 2 ^ k →
      Head.Spelled ⟨major, 24 + k, some n⟩ (firstByte major (24 + k) :: bigEndian (2 ^ k) n) := by
    intro k hk hfits
    have hs := Head.Spelled.long hmajor hk (length_bigEndian (2 ^ k) n)
    rwa [ofBigEndian_bigEndian hfits] at hs
  simp only [head, UInt8.size, UInt16.size, UInt32.size]
  split
  · rename_i hshort
    exact ⟨n, .short hmajor hshort⟩
  split
  · exact ⟨24, hlong (k := 0) (by decide) (by omega)⟩
  split
  · exact ⟨25, hlong (k := 1) (by decide) (by omega)⟩
  split
  · exact ⟨26, hlong (k := 2) (by decide) (by omega)⟩
  · exact ⟨27, hlong (k := 3) (by decide) (by omega)⟩

end Meterboard.Cbor
