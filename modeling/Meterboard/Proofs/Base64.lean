import Meterboard.Base64
import Meterboard.Proofs.Text.Utf8
import Meterboard.Text
import Mathlib.Tactic.Lemma

/-!
# Base64 read back

What is written is read back, and a written text that is cut off is either refused or stands for
fewer bytes.  Both follow the recursion of the writer: three bytes are four characters, and the
reader takes them off in one step wherever they stand (`decodeGroups_quad`).

* `Base64.decode_encode` — reading inverts writing.
* `Base64.decode_of_encode_eq_append` — what a cut-off text stands for.
* `Base64.plain_of_mem_encode` — a written text is one run of ASCII without blanks.
-/

namespace Meterboard.Base64

/-! ## Characters -/

/-- The byte of an ASCII character. -/
def code (c : Char) : UInt8 := c.toNat.toUInt8

/-- The characters of a written text: the symbols and the padding. -/
def Plain (c : Char) : Prop := c = '=' ∨ ∃ n < 64, c = symbol n

lemma plain_symbol {n : Nat} (h : n < 64) : Plain (symbol n) := .inr ⟨n, h, rfl⟩

lemma Plain.toNat_lt {c : Char} (h : Plain c) : c.toNat < 128 := by
  have hsymbol : ∀ n < 64, (symbol n).toNat < 128 := by decide
  rcases h with rfl | ⟨n, hn, rfl⟩
  · decide
  · exact hsymbol n hn

lemma Plain.not_isBlank {c : Char} (h : Plain c) : Text.isBlank c = false := by
  have hsymbol : ∀ n < 64, Text.isBlank (symbol n) = false := by decide
  rcases h with rfl | ⟨n, hn, rfl⟩
  · decide
  · exact hsymbol n hn

lemma code_symbol_ne_pad {n : Nat} (h : n < 64) : code (symbol n) ≠ pad := by
  have hsymbol : ∀ n < 64, code (symbol n) ≠ pad := by decide
  exact hsymbol n h

lemma bitsAt_symbol {n : Nat} (h : n < 64) (offset : Nat) :
    bitsAt offset (code (symbol n)) = .ok n := by
  have hsymbol : ∀ n < 64, sixBits? (code (symbol n)).toNat = some n := by decide
  rw [bitsAt, hsymbol n h]

lemma plain_of_mem_encodeChars {bs : List UInt8} {c : Char} (h : c ∈ encodeChars bs) :
    Plain c := by
  induction bs using encodeChars.induct with
  | case1 => cases h
  | case2 a =>
      have ha := a.toNat_lt
      simp only [encodeChars, List.mem_cons, List.not_mem_nil, or_false] at h
      rcases h with rfl | rfl | rfl | rfl
      · exact plain_symbol (by omega)
      · exact plain_symbol (by omega)
      · exact .inl rfl
      · exact .inl rfl
  | case3 a b =>
      have ha := a.toNat_lt
      have hb := b.toNat_lt
      simp only [encodeChars, List.mem_cons, List.not_mem_nil, or_false] at h
      rcases h with rfl | rfl | rfl | rfl
      · exact plain_symbol (by omega)
      · exact plain_symbol (by omega)
      · exact plain_symbol (by omega)
      · exact .inl rfl
  | case4 a b c rest ih =>
      have ha := a.toNat_lt
      have hb := b.toNat_lt
      have hc := c.toNat_lt
      simp only [encodeChars, List.mem_cons] at h
      rcases h with rfl | rfl | rfl | rfl | h
      · exact plain_symbol (by omega)
      · exact plain_symbol (by omega)
      · exact plain_symbol (by omega)
      · exact plain_symbol (by omega)
      · exact ih h

/-- A written text is symbols and padding. -/
theorem plain_of_mem_encode {bs : List UInt8} {c : Char} (h : c ∈ (encode bs).toList) :
    Plain c := by
  rw [encode, String.toList_ofList] at h
  exact plain_of_mem_encodeChars h

/-- The bytes of a text of plain characters are their codes. -/
lemma utf8_ofList_of_plain {cs : List Char} (h : ∀ c ∈ cs, Plain c) :
    Cbor.utf8 (String.ofList cs) = cs.map code := by
  rw [Cbor.utf8_ofList]
  induction cs with
  | nil => rfl
  | cons c cs ih =>
      have hc : c.toNat < 128 := (h c List.mem_cons_self).toNat_lt
      have hone : String.utf8EncodeChar c = [code c] := by
        simp only [String.utf8EncodeChar, Char.toNat] at hc ⊢
        rw [if_pos (by omega)]
        rfl
      rw [List.flatMap_cons, hone, ih fun d hd => h d (List.mem_cons_of_mem c hd)]
      rfl

/-! ## One group -/

/-- The bytes of a written text. -/
def codes (bs : List UInt8) : List UInt8 := (encodeChars bs).map code

lemma utf8_encode (bs : List UInt8) : Cbor.utf8 (encode bs) = codes bs :=
  utf8_ofList_of_plain fun _ h => plain_of_mem_encodeChars h

/-- The four bytes that three bytes are written as. -/
def quad (a b c : UInt8) : List UInt8 :=
  let n := 65536 * a.toNat + 256 * b.toNat + c.toNat
  [code (symbol (n / 262144)), code (symbol (n / 4096 % 64)), code (symbol (n / 64 % 64)),
    code (symbol (n % 64))]

lemma length_quad (a b c : UInt8) : (quad a b c).length = 4 := rfl

lemma codes_cons (a b c : UInt8) (rest : List UInt8) :
    codes (a :: b :: c :: rest) = quad a b c ++ codes rest := rfl

/-- Four symbols in front of anything are read as three bytes. -/
lemma decodeGroups_symbols {x y z w : Nat} (hx : x < 64) (hy : y < 64) (hz : z < 64)
    (hw : w < 64) (start : Nat) (tail : List UInt8) :
    decodeGroups start
        (code (symbol x) :: code (symbol y) :: code (symbol z) :: code (symbol w) :: tail) =
      (decodeGroups (start + 4) tail).map
        (((262144 * x + 4096 * y + 64 * z + w) / 65536).toUInt8 ::
          ((262144 * x + 4096 * y + 64 * z + w) / 256).toUInt8 ::
            (262144 * x + 4096 * y + 64 * z + w).toUInt8 :: ·) := by
  cases tail with
  | nil =>
      -- the last group goes through the reader of a padded group
      simp only [decodeGroups, decodeLast, lastGroup, bitsAt_symbol, code_symbol_ne_pad, *,
        if_false]
      rfl
  | cons e rest =>
      simp only [decodeGroups, bitsAt_symbol, *]
      cases decodeGroups (start + 4) (e :: rest) <;> rfl

lemma toUInt8_eq {n : Nat} {b : UInt8} (h : n % 256 = b.toNat) : n.toUInt8 = b := by
  rw [← UInt8.toNat_inj, Nat.toUInt8, UInt8.toNat_ofNat']
  exact h

/-- Three bytes in front of anything are read back. -/
lemma decodeGroups_quad (a b c : UInt8) (start : Nat) (tail : List UInt8) :
    decodeGroups start (quad a b c ++ tail) =
      (decodeGroups (start + 4) tail).map (a :: b :: c :: ·) := by
  have ha := a.toNat_lt
  have hb := b.toNat_lt
  have hc := c.toNat_lt
  obtain ⟨n, hn⟩ : ∃ n, n = 65536 * a.toNat + 256 * b.toNat + c.toNat := ⟨_, rfl⟩
  have hread := decodeGroups_symbols (x := n / 262144) (y := n / 4096 % 64) (z := n / 64 % 64)
    (w := n % 64) (by omega) (by omega) (by omega) (by omega) start tail
  have hjoin :
      262144 * (n / 262144) + 4096 * (n / 4096 % 64) + 64 * (n / 64 % 64) + n % 64 = n := by omega
  have hfirst : (n / 65536).toUInt8 = a := toUInt8_eq (by omega)
  have hsecond : (n / 256).toUInt8 = b := toUInt8_eq (by omega)
  have hthird : n.toUInt8 = c := toUInt8_eq (by omega)
  rw [hjoin, hfirst, hsecond, hthird, hn] at hread
  exact hread

/-- One byte, as the last, is read back. -/
lemma decodeGroups_codes_one (a : UInt8) (start : Nat) :
    decodeGroups start (codes [a]) = .ok [a] := by
  have ha := a.toNat_lt
  obtain ⟨n, hn⟩ : ∃ n, n = 65536 * a.toNat := ⟨_, rfl⟩
  have hx : n / 262144 < 64 := by omega
  have hy : n / 4096 % 64 < 64 := by omega
  have hrest : n / 4096 % 64 % 16 = 0 := by omega
  have hbyte : ((64 * (n / 262144) + n / 4096 % 64) / 16).toUInt8 = a := toUInt8_eq (by omega)
  have hcodes : codes [a] =
      [code (symbol (n / 262144)), code (symbol (n / 4096 % 64)), pad, pad] := by rw [hn]; rfl
  simp only [hcodes, decodeGroups, decodeLast, lastGroup, bitsAt_symbol, code_symbol_ne_pad, hx, hy,
    if_false, if_true]
  simp [hrest, hbyte, bind, Except.bind, pure, Except.pure]

/-- Two bytes, as the last, are read back. -/
lemma decodeGroups_codes_two (a b : UInt8) (start : Nat) :
    decodeGroups start (codes [a, b]) = .ok [a, b] := by
  have ha := a.toNat_lt
  have hb := b.toNat_lt
  obtain ⟨n, hn⟩ : ∃ n, n = 65536 * a.toNat + 256 * b.toNat := ⟨_, rfl⟩
  have hx : n / 262144 < 64 := by omega
  have hy : n / 4096 % 64 < 64 := by omega
  have hz : n / 64 % 64 < 64 := by omega
  have hrest : n / 64 % 64 % 4 = 0 := by omega
  have hfirst : ((4096 * (n / 262144) + 64 * (n / 4096 % 64) + n / 64 % 64) / 1024).toUInt8 = a :=
    toUInt8_eq (by omega)
  have hsecond : ((4096 * (n / 262144) + 64 * (n / 4096 % 64) + n / 64 % 64) / 4).toUInt8 = b :=
    toUInt8_eq (by omega)
  have hcodes : codes [a, b] = [code (symbol (n / 262144)), code (symbol (n / 4096 % 64)),
      code (symbol (n / 64 % 64)), pad] := by rw [hn]; rfl
  simp only [hcodes, decodeGroups, decodeLast, lastGroup, bitsAt_symbol, code_symbol_ne_pad, hx, hy,
    hz, if_false, if_true]
  simp [hrest, hfirst, hsecond, bind, Except.bind, pure, Except.pure]

/-! ## Whole texts -/

/-- The groups of a written text are read back. -/
lemma decodeGroups_codes (bs : List UInt8) (start : Nat) :
    decodeGroups start (codes bs) = .ok bs := by
  induction bs using encodeChars.induct generalizing start with
  | case1 => rfl
  | case2 a => exact decodeGroups_codes_one a start
  | case3 a b => exact decodeGroups_codes_two a b start
  | case4 a b c rest ih =>
      rw [codes_cons, decodeGroups_quad, ih]
      rfl

lemma length_codes (bs : List UInt8) : (codes bs).length % 4 = 0 := by
  induction bs using encodeChars.induct with
  | case1 => rfl
  | case2 a => simp [codes, encodeChars]
  | case3 a b => simp [codes, encodeChars]
  | case4 a b c rest ih =>
      rw [codes_cons, List.length_append, length_quad]
      omega

/-- The look at the last byte only ever refuses. -/
lemma decodeBytes_eq (bs : List UInt8) :
    decodeBytes bs = decodeGroups 0 bs ∨
      bs.length % 4 = 1 ∧ ∃ fault, decodeBytes bs = .error fault := by
  unfold decodeBytes
  cases hlast : bs.getLast? with
  | none =>
      rw [List.getLast?_eq_none_iff.1 hlast]
      exact .inl rfl
  | some b =>
      dsimp only
      split
      · rename_i hstray
        exact .inr ⟨hstray.1, _, rfl⟩
      · exact .inl rfl

/-- **What is written is read back.** -/
theorem decode_encode (bs : List UInt8) : decode (encode bs) = .ok bs := by
  have hbytes : decode (encode bs) = decodeBytes (codes bs) := by rw [← utf8_encode]; rfl
  rw [hbytes]
  rcases decodeBytes_eq (codes bs) with heq | ⟨hlength, -⟩
  · rw [heq, decodeGroups_codes]
  · rw [length_codes] at hlength
    exact absurd hlength (by decide)

/-! ## Texts that are cut off -/

section

variable {x y z : Nat} (hx : x < 64) (hy : y < 64) (hz : z < 64) (start : Nat)
include hx

lemma decodeGroups_one_symbol :
    ∃ fault, decodeGroups start [code (symbol x)] = .error fault := by
  simp only [decodeGroups, decodeLast, lastGroup, bitsAt_symbol, code_symbol_ne_pad, hx, if_false]
  exact ⟨_, rfl⟩

include hy

lemma decodeGroups_two_symbols :
    ∃ fault, decodeGroups start [code (symbol x), code (symbol y)] = .error fault := by
  simp only [decodeGroups, decodeLast, lastGroup, bitsAt_symbol, code_symbol_ne_pad, hx, hy,
    if_false]
  exact ⟨_, rfl⟩

lemma decodeGroups_half_padded :
    ∃ fault, decodeGroups start [code (symbol x), code (symbol y), pad] = .error fault := by
  simp only [decodeGroups, decodeLast, lastGroup, bitsAt_symbol, code_symbol_ne_pad, hx, hy,
    if_false, if_true]
  exact ⟨_, rfl⟩

include hz

lemma decodeGroups_three_symbols :
    ∃ fault, decodeGroups start [code (symbol x), code (symbol y), code (symbol z)] =
      .error fault := by
  simp only [decodeGroups, decodeLast, lastGroup, bitsAt_symbol, code_symbol_ne_pad, hx, hy, hz,
    if_false]
  exact ⟨_, rfl⟩

end

/-- A group that is cut off is refused, whether or not its third character is padding. -/
lemma decodeGroups_take_group {x y : Nat} {u : UInt8} (hx : x < 64) (hy : y < 64)
    (hu : u = pad ∨ ∃ z < 64, u = code (symbol z)) (start : Nat) {k : Nat} (hk : 0 < k)
    (hk4 : k < 4) (tail : List UInt8) :
    ∃ fault, decodeGroups start ((code (symbol x) :: code (symbol y) :: u :: tail).take k) =
      .error fault := by
  obtain rfl | rfl | rfl : k = 1 ∨ k = 2 ∨ k = 3 := by omega
  · exact decodeGroups_one_symbol hx start
  · exact decodeGroups_two_symbols hx hy start
  · rcases hu with rfl | ⟨z, hz, rfl⟩
    · exact decodeGroups_half_padded hx hy start
    · exact decodeGroups_three_symbols hx hy hz start

/-- Cut inside a group, a written text is refused; cut between groups, it stands for the bytes of
the groups that are left. -/
lemma decodeGroups_take_codes (bs : List UInt8) (start : Nat) {k : Nat}
    (hk : k < (codes bs).length) :
    (∃ fault, decodeGroups start ((codes bs).take k) = .error fault) ∨
      ∃ n < bs.length, decodeGroups start ((codes bs).take k) = .ok (bs.take n) := by
  induction bs using encodeChars.induct generalizing start k with
  | case1 => exact absurd hk (Nat.not_lt_zero k)
  | case2 a =>
      have ha := a.toNat_lt
      rcases Nat.eq_zero_or_pos k with rfl | hpos
      · exact .inr ⟨0, Nat.zero_lt_one, rfl⟩
      · exact .inl (decodeGroups_take_group (by omega) (by omega) (.inl rfl) start hpos hk _)
  | case3 a b =>
      have ha := a.toNat_lt
      have hb := b.toNat_lt
      rcases Nat.eq_zero_or_pos k with rfl | hpos
      · exact .inr ⟨0, Nat.zero_lt_two, rfl⟩
      · exact .inl (decodeGroups_take_group (by omega) (by omega) (.inr ⟨_, by omega, rfl⟩) start
          hpos hk _)
  | case4 a b c rest ih =>
      have ha := a.toNat_lt
      have hb := b.toNat_lt
      have hc := c.toNat_lt
      rw [codes_cons] at hk ⊢
      rcases Nat.eq_zero_or_pos k with rfl | hpos
      · exact .inr ⟨0, Nat.succ_pos _, rfl⟩
      rcases Nat.lt_or_ge k 4 with hk4 | hk4
      · exact .inl (decodeGroups_take_group (by omega) (by omega) (.inr ⟨_, by omega, rfl⟩) start
          hpos hk4 _)
      obtain ⟨j, rfl⟩ := Nat.exists_eq_add_of_le hk4
      have hcut : (quad a b c ++ codes rest).take (4 + j) = quad a b c ++ (codes rest).take j := by
        rw [← length_quad a b c, List.take_length_add_append]
      have hj : j < (codes rest).length := by
        rw [List.length_append, length_quad] at hk
        omega
      rw [hcut, decodeGroups_quad]
      rcases ih (start + 4) hj with ⟨fault, hfault⟩ | ⟨n, hn, hok⟩
      · exact .inl ⟨fault, by rw [hfault]; rfl⟩
      · refine .inr ⟨n + 3, ?_, by rw [hok]; rfl⟩
        rw [List.length_cons, List.length_cons, List.length_cons]
        omega

/-- **A written text that is cut off is refused, or stands for fewer bytes.** -/
theorem decode_of_encode_eq_append {bs : List UInt8} {s t : String} (h : encode bs = s ++ t)
    (ht : t ≠ "") :
    (∃ fault, decode s = .error fault) ∨ ∃ n < bs.length, decode s = .ok (bs.take n) := by
  have hchars : encodeChars bs = s.toList ++ t.toList := by
    rw [← String.toList_append, ← h, encode, String.toList_ofList]
  have hplain : ∀ c ∈ s.toList, Plain c := fun c hc =>
    plain_of_mem_encodeChars (hchars ▸ List.mem_append_left _ hc)
  have hbytes : decode s = decodeBytes ((codes bs).take s.toList.length) := by
    have hcodes : (codes bs).take s.toList.length = s.toList.map code := by
      rw [codes, hchars, ← List.map_take, List.take_left]
    rw [hcodes, ← utf8_ofList_of_plain hplain, String.ofList_toList]
    rfl
  have hshort : s.toList.length < (codes bs).length := by
    have hpos : 0 < t.toList.length :=
      List.length_pos_iff.2 fun hnil => ht (String.toList_eq_nil_iff.1 hnil)
    rw [codes, hchars, List.length_map, List.length_append]
    omega
  rw [hbytes]
  rcases decodeBytes_eq ((codes bs).take s.toList.length) with heq | ⟨-, hfault⟩
  · rw [heq]
    exact decodeGroups_take_codes bs 0 hshort
  · exact .inl hfault

end Meterboard.Base64
