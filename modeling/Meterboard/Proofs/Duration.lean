import Meterboard.Duration
import Meterboard.Proofs.Text.Blank

/-!
# Readings of a duration

A text is read exactly if it is digits with at most one unit letter behind them.  Any other text is
read by the integer at its beginning, for which a blank before it is none of its characters.  So a
blank beside a written duration is enough to lose its unit.

* `written?_eq_some_iff` — the written form.  There are no blanks in it (`not_isBlank_of_written`).
* `leading?_trimChars` — blanks around a text do not matter to its leading integer.
* `leading?_of_written` — the leading integer of a written duration is its number.
* `seconds?_readChars_of_written`, `seconds?_readChars_of_leading` — the seconds that are read.
-/

namespace Meterboard

/-! ## Digits -/

namespace Text

lemma not_isBlank_of_isDigit {c : Char} (h : c.isDigit = true) : isBlank c = false := by
  have hdigit : 48 ≤ c.toNat ∧ c.toNat ≤ 57 := by
    simpa [Char.isDigit, UInt32.le_iff_toNat_le] using h
  simp [isBlank, blankRanges]
  omega

lemma natural?_eq_some_iff {s : List Char} {n : Nat} :
    natural? s = some n ↔ s ≠ [] ∧ (∀ c ∈ s, c.isDigit = true) ∧ valueOf s = n := by
  cases s with
  | nil => simp [natural?]
  | cons c s => simp [natural?, and_assoc]

end Text

namespace Duration

/-! ## The written form -/

lemma Unit.not_isDigit_letter (u : Unit) : u.letter.isDigit = false := by cases u <;> rfl

lemma Unit.not_isBlank_letter (u : Unit) : Text.isBlank u.letter = false := by cases u <;> decide

lemma Unit.seconds_pos (u : Unit) : 0 < u.seconds := by cases u <;> decide

lemma Unit.one_lt_seconds {u : Unit} (h : u ≠ .second) : 1 < u.seconds := by
  cases u with
  | second => exact absurd rfl h
  | _ => decide

lemma Unit.eq_letter_of_ofLetter? {c : Char} {u : Unit} (h : Unit.ofLetter? c = some u) :
    c = u.letter := by
  unfold Unit.ofLetter? at h
  split at h <;> cases h <;> rfl

/-- A text is in the written form if it is digits with a unit letter behind them, or digits alone,
which count seconds. -/
theorem written?_eq_some_iff {s : List Char} {n : Nat} {u : Unit} :
    written? s = some (n, u) ↔
      ∃ digits, Text.natural? digits = some n ∧
        (s = digits ++ [u.letter] ∨ (s = digits ∧ u = .second)) := by
  constructor
  · intro h
    unfold written? at h
    cases hnatural : Text.natural? s with
    | some m =>
        rw [hnatural] at h
        cases h
        exact ⟨s, hnatural, .inr ⟨rfl, rfl⟩⟩
    | none =>
        simp only [hnatural, Option.bind_eq_bind, Option.bind_eq_some_iff, Option.pure_def,
          Option.some.injEq, Prod.mk.injEq] at h
        obtain ⟨c, hlast, unit, hunit, m, hdigits, rfl, rfl⟩ := h
        obtain ⟨front, rfl⟩ := List.getLast?_eq_some_iff.1 hlast
        rw [List.dropLast_concat] at hdigits
        exact ⟨front, hdigits, .inl (Unit.eq_letter_of_ofLetter? hunit ▸ rfl)⟩
  · rintro ⟨digits, hdigits, rfl | ⟨rfl, rfl⟩⟩
    · have hnone : Text.natural? (digits ++ [u.letter]) = none := by
        rw [Option.eq_none_iff_forall_ne_some]
        intro m hm
        have hletter := (Text.natural?_eq_some_iff.1 hm).2.1 u.letter (by simp)
        rw [u.not_isDigit_letter] at hletter
        cases hletter
      simp [written?, hnone, Unit.ofLetter?_letter, hdigits]
    · simp [written?, hdigits]

/-- There are no blanks in a written duration. -/
lemma not_isBlank_of_written {s : List Char} {n : Nat} {u : Unit} (h : written? s = some (n, u)) :
    ∀ c ∈ s, Text.isBlank c = false := by
  obtain ⟨digits, hnatural, hform⟩ := written?_eq_some_iff.1 h
  obtain ⟨-, hdigits, -⟩ := Text.natural?_eq_some_iff.1 hnatural
  intro c hc
  rcases hform with rfl | ⟨rfl, -⟩
  · rcases List.mem_append.1 hc with hc | hc
    · exact Text.not_isBlank_of_isDigit (hdigits c hc)
    · exact List.mem_singleton.1 hc ▸ u.not_isBlank_letter
  · exact Text.not_isBlank_of_isDigit (hdigits c hc)

/-! ## The leading integer -/

lemma leading?_minus {s rest : List Char} (h : Text.trimLeft s = '-' :: rest) :
    leading? s = (leading?.magnitude? rest).map fun n : Nat => -(n : Int) := by
  simp only [leading?, h]
  cases leading?.magnitude? rest <;> rfl

lemma leading?_plus {s rest : List Char} (h : Text.trimLeft s = '+' :: rest) :
    leading? s = (leading?.magnitude? rest).map Int.ofNat := by
  simp only [leading?, h]
  cases leading?.magnitude? rest <;> rfl

lemma leading?_plain {s front : List Char} (h : Text.trimLeft s = front)
    (hminus : ∀ rest, front ≠ '-' :: rest) (hplus : ∀ rest, front ≠ '+' :: rest) :
    leading? s = (leading?.magnitude? front).map Int.ofNat := by
  unfold leading?
  rw [h]
  split
  · exact absurd rfl (hminus _)
  · exact absurd rfl (hplus _)
  · cases leading?.magnitude? front <;> rfl

/-- Only digits at the front count. -/
lemma magnitude?_append (s : List Char) {rest : List Char}
    (hrest : rest.takeWhile Char.isDigit = []) :
    leading?.magnitude? (s ++ rest) = leading?.magnitude? s := by
  have hfront : (s ++ rest).takeWhile Char.isDigit = s.takeWhile Char.isDigit := by
    rw [List.takeWhile_append, hrest, List.append_nil]
    split
    · rename_i hlength
      exact ((List.takeWhile_prefix _).eq_of_length hlength).symm
    · rfl
  rw [leading?.magnitude?, hfront, leading?.magnitude?]

lemma magnitude?_of_natural {digits : List Char} {n : Nat} (h : Text.natural? digits = some n) :
    leading?.magnitude? digits = if n ≤ limit then some n else none := by
  have hall : digits.takeWhile Char.isDigit = digits := by
    obtain ⟨-, hdigits, -⟩ := Text.natural?_eq_some_iff.1 h
    have hfront : (digits ++ []).takeWhile Char.isDigit = digits ++ [] :=
      List.takeWhile_append_of_pos hdigits
    rwa [List.append_nil] at hfront
  rw [leading?.magnitude?, hall, h]
  rfl

lemma takeWhile_isDigit_of_isBlank {s : List Char} (h : ∀ c ∈ s, Text.isBlank c = true) :
    s.takeWhile Char.isDigit = [] := by
  cases s with
  | nil => rfl
  | cons c s =>
      have hdigit : c.isDigit = false := by
        cases hdigit : c.isDigit with
        | false => rfl
        | true => cases (Text.not_isBlank_of_isDigit hdigit).symm.trans (h c List.mem_cons_self)
      rw [List.takeWhile_cons, hdigit, if_neg Bool.false_ne_true]

/-- Blanks around a text do not matter to the integer it begins with. -/
theorem leading?_trimChars (s : List Char) : leading? (Text.trimChars s) = leading? s := by
  obtain ⟨after, hafter, hleft⟩ := Text.trimLeft_eq_trimChars_append s
  have hnone := takeWhile_isDigit_of_isBlank hafter
  have htrimmed := Text.trimLeft_trimChars s
  by_cases hminus : ∃ rest, Text.trimChars s = '-' :: rest
  · obtain ⟨rest, hrest⟩ := hminus
    rw [hrest] at htrimmed hleft ⊢
    rw [List.cons_append] at hleft
    rw [leading?_minus htrimmed, leading?_minus hleft, magnitude?_append rest hnone]
  by_cases hplus : ∃ rest, Text.trimChars s = '+' :: rest
  · obtain ⟨rest, hrest⟩ := hplus
    rw [hrest] at htrimmed hleft ⊢
    rw [List.cons_append] at hleft
    rw [leading?_plus htrimmed, leading?_plus hleft, magnitude?_append rest hnone]
  -- a sign that is not there before the blanks is not there with them either
  have hsign : ∀ c rest, Text.isBlank c = false → Text.trimChars s ++ after = c :: rest →
      ∃ rest, Text.trimChars s = c :: rest := by
    intro c rest hc hsame
    rcases List.append_eq_cons_iff.1 hsame with ⟨-, hblank⟩ | ⟨cs, hcs, -⟩
    · cases hc.symm.trans (hafter c (hblank ▸ List.mem_cons_self))
    · exact ⟨cs, hcs⟩
  rw [leading?_plain htrimmed (fun rest h => hminus ⟨rest, h⟩) (fun rest h => hplus ⟨rest, h⟩),
    leading?_plain hleft (fun rest h => hminus (hsign _ rest (by decide) h))
      (fun rest h => hplus (hsign _ rest (by decide) h)), magnitude?_append _ hnone]

/-- The integer that a written duration begins with is its number. -/
theorem leading?_of_written {s : List Char} {n : Nat} {u : Unit} (h : written? s = some (n, u)) :
    leading? s = if n ≤ limit then some (n : Int) else none := by
  obtain ⟨digits, hnatural, hform⟩ := written?_eq_some_iff.1 h
  obtain ⟨hsome, hdigits, -⟩ := Text.natural?_eq_some_iff.1 hnatural
  have hleft := Text.trimLeft_eq_self (not_isBlank_of_written h)
  have hmagnitude : leading?.magnitude? s = if n ≤ limit then some n else none := by
    rcases hform with rfl | ⟨rfl, -⟩
    · have hletter : [u.letter].takeWhile Char.isDigit = [] := by
        rw [List.takeWhile_cons, u.not_isDigit_letter, if_neg Bool.false_ne_true]
      rw [magnitude?_append digits hletter, magnitude?_of_natural hnatural]
    · exact magnitude?_of_natural hnatural
  have hfirst : ∀ c rest, c.isDigit = false → s ≠ c :: rest := by
    rintro c rest hc rfl
    obtain ⟨d, ds, rfl⟩ := List.exists_cons_of_ne_nil hsome
    have hcd : c = d := by rcases hform with hform | ⟨hform, -⟩ <;> exact (List.cons.inj hform).1
    rw [hcd, hdigits d List.mem_cons_self] at hc
    cases hc
  rw [leading?_plain hleft (fun rest => hfirst _ rest rfl) (fun rest => hfirst _ rest rfl),
    hmagnitude]
  split <;> rfl

/-! ## The seconds that are read -/

lemma seconds?_readChars_of_written {s : List Char} {n : Nat} {u : Unit}
    (h : written? s = some (n, u)) :
    (readChars s).seconds?
      = if n * u.seconds ≤ limit then some ((n * u.seconds : Nat) : Int) else none := by
  rw [readChars, h]
  dsimp only
  split <;> rfl

lemma seconds?_readChars_of_leading {s : List Char} (h : written? s = none) :
    (readChars s).seconds? = leading? s := by
  rw [readChars, h]
  cases leading? s <;> rfl

end Duration

end Meterboard
