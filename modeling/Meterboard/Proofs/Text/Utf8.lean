import Meterboard.Cbor.Item
import Mathlib.Tactic.Lemma

/-!
# Texts and their bytes

Options are sorted, and texts are sent, by their UTF-8 bytes, while the library works on texts.

* `utf8_eq` — the bytes of a text are those of its characters, one after the other.
* `text?_utf8`, `eq_utf8_of_text?` — the bytes of a text, and no others, are read as that text.
* `utf8_lt_utf8` — texts are ordered as their bytes are.  The encoding of a larger character is
  larger at the first byte in which the two differ (`utf8EncodeChar_append_lt`): a longer encoding
  has a larger first byte, and of two equally long ones the leading bits decide.
-/

namespace Meterboard.Cbor

/-! ## Bytes of a text -/

lemma utf8_ofList (cs : List Char) :
    utf8 (String.ofList cs) = cs.flatMap String.utf8EncodeChar := by
  rw [utf8, String.toUTF8_eq_toByteArray, String.toByteArray_ofList, List.utf8Encode,
    List.toList_data_toByteArray]

lemma utf8_eq (s : String) : utf8 s = s.toList.flatMap String.utf8EncodeChar := by
  rw [← utf8_ofList, String.ofList_toList]

/-- The bytes of a text are read as that text. -/
theorem text?_utf8 (s : String) : text? (utf8 s) = some s := by
  have hbytes : (⟨(utf8 s).toArray⟩ : ByteArray) = s.toByteArray := rfl
  rw [text?, hbytes, String.fromUTF8?, dif_pos s.isValidUTF8]
  rfl

/-- Bytes that are read as a text are the bytes of that text. -/
theorem eq_utf8_of_text? {bs : List UInt8} {s : String} (h : text? bs = some s) : bs = utf8 s := by
  simp only [text?, String.fromUTF8?] at h
  split at h
  · cases h
    rfl
  · cases h

/-! ## Order -/

/-- The encoding of a larger character is larger, whatever comes behind. -/
lemma utf8EncodeChar_append_lt {c d : Char} (h : c < d) (x y : List UInt8) :
    String.utf8EncodeChar c ++ x < String.utf8EncodeChar d ++ y := by
  have hlt : c.val.toNat < d.val.toNat := h
  have hd : d.val.toNat < 0x110000 := by
    have hvalid := d.valid
    simp only [UInt32.isValidChar, Nat.isValidChar] at hvalid
    omega
  unfold String.utf8EncodeChar
  dsimp only
  generalize c.val.toNat = m at *
  generalize d.val.toNat = n at *
  have hm : m ≤ 127 ∨ (¬ m ≤ 127 ∧ m ≤ 2047) ∨ (¬ m ≤ 127 ∧ ¬ m ≤ 2047 ∧ m ≤ 65535) ∨
      (¬ m ≤ 127 ∧ ¬ m ≤ 2047 ∧ ¬ m ≤ 65535) := by omega
  have hn : n ≤ 127 ∨ (¬ n ≤ 127 ∧ n ≤ 2047) ∨ (¬ n ≤ 127 ∧ ¬ n ≤ 2047 ∧ n ≤ 65535) ∨
      (¬ n ≤ 127 ∧ ¬ n ≤ 2047 ∧ ¬ n ≤ 65535) := by omega
  rcases hm with hm | hm | hm | hm <;> rcases hn with hn | hn | hn | hn <;>
    simp (disch := omega) only [hm, hn, if_true, if_false, List.cons_append,
      List.nil_append, List.cons_lt_cons_iff, UInt8.lt_iff_toNat_lt, ← UInt8.toNat_inj,
      UInt8.toNat_ofNat', Nat.mod_eq_of_lt] <;>
    omega

lemma flatMap_utf8EncodeChar_lt {cs ds : List Char} (h : cs < ds) :
    cs.flatMap String.utf8EncodeChar < ds.flatMap String.utf8EncodeChar := by
  induction cs generalizing ds with
  | nil =>
      cases ds with
      | nil => exact absurd h (List.lt_irrefl _)
      | cons d ds =>
          obtain ⟨b, bs, hd⟩ := List.exists_cons_of_ne_nil (String.utf8EncodeChar_ne_nil (c := d))
          rw [List.flatMap_cons, hd]
          exact List.nil_lt_cons b _
  | cons c cs ih =>
      cases ds with
      | nil => cases h
      | cons d ds =>
          rw [List.flatMap_cons, List.flatMap_cons]
          rcases List.cons_lt_cons_iff.1 h with hlt | ⟨rfl, hrest⟩
          · exact utf8EncodeChar_append_lt hlt _ _
          · exact List.append_left_lt (ih hrest)

/-- **Texts are ordered as their bytes are.** -/
theorem utf8_lt_utf8 {a b : String} : utf8 a < utf8 b ↔ a < b := by
  have hmono : ∀ {s t : String}, s < t → utf8 s < utf8 t := by
    intro s t h
    rw [utf8_eq, utf8_eq]
    exact flatMap_utf8EncodeChar_lt (String.lt_iff.1 h)
  refine ⟨fun h => Decidable.byContradiction fun hnot => ?_, hmono⟩
  by_cases hback : b < a
  · exact List.lt_irrefl _ (List.lt_trans h (hmono hback))
  · obtain rfl := String.le_antisymm (String.not_lt.1 hback) (String.not_lt.1 hnot)
    exact List.lt_irrefl _ h

end Meterboard.Cbor
