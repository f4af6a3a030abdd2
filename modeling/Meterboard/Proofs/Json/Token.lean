import Mathlib.Tactic.Ring
import Meterboard.Json.Reader
import Meterboard.Json.Writer
import Meterboard.Proofs.Duration.Label

/-!
# Tokens in JSON, read back

The readers take what they read off the front of a text, so what is said of each is what it takes
and what it leaves, whatever comes behind.

* `Takes` — a reader takes a value off the front of a text and leaves the rest.  A reader that is
  put together from others takes what they take one after the other (`Takes.bind`).
* `takes_string` — a text comes back from between its quotes, because every character comes back
  from the way it is written (`escape_cases`).
* `Ends`, `takes_natural` — a natural number comes back from its digits where these end.
* `Opens` — by its first character a value is told from null and from the end of a list.
-/

namespace Meterboard.Json

open Wire (Value)

/-! ## Readers -/

/-- The reader takes a value off the front of a text and leaves the rest. -/
def Takes {α : Type} (r : Reader α) (s : List Char) (a : α) (rest : List Char) : Prop :=
  r s = .ok (a, rest)

lemma Takes.bind {α β : Type} {r : Reader α} {f : α → Reader β} {s t u : List Char} {a : α}
    {b : β} (h : Takes r s a t) (hrest : Takes (f a) t b u) : Takes (r >>= f) s b u := by
  have hrun : (r >>= f) s = (r s).bind fun p => f p.1 p.2 := rfl
  rw [Takes, hrun, h]
  exact hrest

lemma takes_pure {α : Type} (a : α) (s : List Char) : Takes (pure a) s a s := rfl

lemma takes_peek (s : List Char) : Takes peek s s.head? s := rfl

lemma takes_next (c : Char) (s : List Char) : Takes next (c :: s) (some c) s := rfl

lemma takes_get (s : List Char) : Takes get s s s := rfl

lemma takes_drop (c : Char) (s : List Char) : Takes drop (c :: s) () s := rfl

lemma takes_peekToken {c : Char} (hc : isBlank c = false) (s : List Char) :
    Takes peekToken (c :: s) (some c) (c :: s) := by
  rw [Takes, peekToken, List.dropWhile_cons_of_neg (by simp [hc])]
  rfl

/-! ## Texts -/

lemma takes_hexCode {n : Nat} (hn : n < 0x20) (s : List Char) :
    Takes hexCode (List.leftpad 4 '0' (Text.hex n) ++ s) n s := by
  have hfour : ∀ n < 0x20, (List.leftpad 4 '0' (Text.hex n)).length = 4 ∧
      Text.hexNatural? (List.leftpad 4 '0' (Text.hex n)) = some n := by decide
  obtain ⟨hlength, hvalue⟩ := hfour n hn
  match hcode : List.leftpad 4 '0' (Text.hex n), hlength with
  | [a, b, c, d], _ =>
      rw [hcode] at hvalue
      simp only [Takes, hexCode, List.cons_append, List.nil_append, hvalue]

/-- A control character comes back from its code. -/
lemma takes_codePoint {c : Char} (hc : c.toNat < 0x20) (s : List Char) :
    Takes codePoint (List.leftpad 4 '0' (Text.hex c.toNat) ++ s) c s := by
  refine (takes_hexCode hc s).bind ?_
  have hlow : ¬ (0xDC00 ≤ c.toNat ∧ c.toNat ≤ 0xDFFF) := by omega
  have hwhole : c.toNat < 0xD800 ∨ 0xDFFF < c.toNat := .inl (by omega)
  simp only [hlow, hwhole, if_true, if_false, Char.ofNat_toNat]
  exact takes_pure c s

/-- A character is written as an escape that stands for it, or as itself. -/
lemma escape_cases (c : Char) :
    (∃ code, escape c = '\\' :: code ∧ ∀ s, Takes escapeSequence (code ++ s) c s) ∨
    (escape c = [c] ∧ c ≠ '"' ∧ c ≠ '\\' ∧ 0x20 ≤ c.toNat) := by
  unfold escape
  split
  case h_8 hquote hbackslash _ _ _ _ _ =>
    split
    case isTrue hcontrol =>
      exact .inl ⟨_, rfl, fun s => (takes_next 'u' _).bind (takes_codePoint hcontrol s)⟩
    case isFalse hplain =>
      exact .inr ⟨rfl, hquote, hbackslash, by omega⟩
  all_goals exact .inl ⟨_, rfl, fun _ => rfl⟩

/-- A character comes back from the way it is written. -/
lemma takes_escape (c : Char) {fuel : Nat} {s t : List Char} {cs : List Char}
    (hrest : Takes (stringTail fuel) s cs t) :
    Takes (stringTail (fuel + 1)) (escape c ++ s) (c :: cs) t := by
  rcases escape_cases c with ⟨code, hc, hcode⟩ | ⟨hc, hquote, hbackslash, hplain⟩
  · rw [hc]
    exact (takes_next _ _).bind ((hcode s).bind (hrest.bind (takes_pure _ t)))
  · rw [hc]
    refine (takes_next c s).bind ?_
    -- the quote and the backslash are the only characters that do not stand for themselves
    split
    next heq => cases heq
    next heq => exact absurd (Option.some.inj heq) hquote
    next heq => exact absurd (Option.some.inj heq) hbackslash
    next heq =>
      cases heq
      rw [if_neg (by omega)]
      exact hrest.bind (takes_pure _ t)

lemma takes_stringTail (cs : List Char) {fuel : Nat} (hfuel : cs.length < fuel) (s : List Char) :
    Takes (stringTail fuel) (cs.flatMap escape ++ '"' :: s) cs s := by
  induction cs generalizing fuel with
  | nil =>
      obtain ⟨fuel, rfl⟩ := Nat.exists_eq_add_one_of_ne_zero (Nat.ne_zero_of_lt hfuel)
      exact (takes_next '"' s).bind (takes_pure [] s)
  | cons c cs ih =>
      obtain ⟨fuel, rfl⟩ := Nat.exists_eq_add_one_of_ne_zero (Nat.ne_zero_of_lt hfuel)
      rw [List.flatMap_cons, List.append_assoc]
      exact takes_escape c (ih (Nat.lt_of_succ_lt_succ hfuel))

/-- No character is written as nothing. -/
lemma length_le_flatMap_escape (cs : List Char) : cs.length ≤ (cs.flatMap escape).length := by
  induction cs with
  | nil => exact Nat.zero_le _
  | cons c cs ih =>
      rw [List.flatMap_cons, List.length_append, List.length_cons]
      rcases escape_cases c with ⟨code, hc, -⟩ | ⟨hc, -⟩
      all_goals
        rw [hc, List.length_cons]
        omega

/-- **A text comes back from between its quotes.** -/
lemma takes_string (text : String) (s : List Char) :
    Takes string (quoted text ++ s) text s := by
  have hquoted : quoted text ++ s = '"' :: (text.toList.flatMap escape ++ '"' :: s) := by
    simp [quoted]
  have hfuel : text.toList.length < (quoted text ++ s).length + 1 := by
    have hle := length_le_flatMap_escape text.toList
    rw [hquoted, List.length_cons, List.length_append]
    omega
  have hread : Takes (do drop; return String.ofList (← stringTail ((quoted text ++ s).length + 1)))
      (quoted text ++ s) text s := by
    rw [hquoted] at hfuel ⊢
    refine (takes_drop _ _).bind ((takes_stringTail text.toList hfuel s).bind ?_)
    rw [String.ofList_toList]
    exact takes_pure text s
  exact hread

/-! ## Numbers -/

/-- What may follow a value inside a list or a record, or behind a whole text. -/
inductive Ends : List Char → Prop
  | nil : Ends []
  | comma (s : List Char) : Ends (',' :: s)
  | bracket (s : List Char) : Ends (']' :: s)
  | brace (s : List Char) : Ends ('\x7d' :: s)

lemma takes_digits {ds s : List Char} (hds : ∀ c ∈ ds, c.isDigit) (hs : Ends s) :
    Takes digits (ds ++ s) ds s := by
  have hstop : s.takeWhile Char.isDigit = [] ∧ s.dropWhile Char.isDigit = s := by
    cases hs <;> exact ⟨rfl, rfl⟩
  rw [Takes, digits, List.takeWhile_append_of_pos hds, List.dropWhile_append_of_pos hds, hstop.1,
    hstop.2, List.append_nil]

/-- Further digits do not make a number smaller. -/
lemma le_foldl_digits (ds : List Char) (n : Nat) :
    n ≤ ds.foldl (fun n c => 10 * n + Text.digitValue c) n := by
  induction ds generalizing n with
  | nil => exact le_rfl
  | cons c ds ih =>
      have hle : n ≤ 10 * n + Text.digitValue c := by omega
      exact hle.trans (ih _)

/-- All digits of a number that is not too large go into its significand. -/
lemma accumulate_eq (ds : List Char) (n : Nat)
    (hn : ds.foldl (fun n c => 10 * n + Text.digitValue c) n ≤ significandLimit) :
    accumulate n ds = (ds.foldl (fun n c => 10 * n + Text.digitValue c) n, []) := by
  induction ds generalizing n with
  | nil => rfl
  | cons c ds ih =>
      have hle := (le_foldl_digits ds (10 * n + Text.digitValue c)).trans hn
      rw [accumulate, if_neg (by omega)]
      exact ih _ hn

/-- Only zero is written with a zero in front. -/
lemma eq_zero_of_decimal {n : Nat} {ds : List Char} (h : Text.decimal n = '0' :: ds) : n = 0 := by
  have hdigits : ∀ n, Text.decimal n = Nat.toDigits 10 n := fun _ => String.toList_ofList
  induction n using Nat.strong_induction_on generalizing ds with
  | _ n ih =>
      rw [hdigits, Nat.toDigits_eq_if (by decide)] at h
      split at h
      case isTrue hn =>
        have hzero : ∀ n < 10, Nat.digitChar n = '0' → n = 0 := by decide
        exact hzero n hn (List.cons.inj h).1
      case isFalse hn =>
        obtain ⟨c, rest, hrest⟩ := List.exists_cons_of_ne_nil
          (Nat.toDigits_ne_nil (n := n / 10) (b := 10))
        rw [hrest, List.cons_append] at h
        obtain ⟨rfl, -⟩ := List.cons.inj h
        have hfirst := ih (n / 10) (by omega) ((hdigits _).trans hrest)
        omega

lemma decimal_eq_cons (n : Nat) : ∃ c ds, Text.decimal n = c :: ds ∧ c.isDigit := by
  obtain ⟨hne, hdigits, -⟩ := Text.natural?_eq_some_iff.1 (Text.natural?_decimal n)
  obtain ⟨c, ds, hcons⟩ := List.exists_cons_of_ne_nil hne
  exact ⟨c, ds, hcons, hdigits c (by simp [hcons])⟩

/-- A number that fits its significand is read up to where its digits end. -/
lemma takes_unsignedNumber {n : Nat} (hn : n ≤ significandLimit) {s : List Char} (hs : Ends s) :
    Takes (unsignedNumber false) (Text.decimal n ++ s) (.natural n) s := by
  obtain ⟨-, hdigits, hvalue⟩ := Text.natural?_eq_some_iff.1 (Text.natural?_decimal n)
  obtain ⟨c, ds, hcons, hc⟩ := decimal_eq_cons n
  have hzero : ¬ (c = '0' ∧ 1 < (Text.decimal n).length) := by
    rintro ⟨rfl, hlong⟩
    obtain rfl := eq_zero_of_decimal hcons
    exact absurd hlong (by decide)
  have haccumulate : accumulate 0 (Text.decimal n) = (n, []) := by
    have h := accumulate_eq (Text.decimal n) 0
    rw [← Text.valueOf, hvalue] at h
    exact h hn
  have hhead : (Text.decimal n ++ s).head? = some c := by rw [hcons]; rfl
  refine (takes_peek _).bind ?_
  rw [hhead]
  dsimp only
  rw [hc, if_neg (by decide)]
  refine (takes_digits hdigits hs).bind ?_
  rw [if_neg hzero, haccumulate]
  dsimp only
  refine (takes_peek _).bind ?_
  cases hs <;> rfl

/-! ## Beginnings -/

/-- How a value begins that is neither null nor a double. -/
inductive Opens : Char → Prop
  | yes : Opens 't'
  | no : Opens 'f'
  | quote : Opens '"'
  | bracket : Opens '['
  | brace : Opens '\x7b'
  | digit {c : Char} (hc : c.isDigit) : Opens c

lemma Opens.isBlank_eq {c : Char} (h : Opens c) : isBlank c = false := by
  cases h with
  | digit hc =>
      simp only [isBlank, Bool.or_eq_false_iff, decide_eq_false_iff_not]
      refine ⟨⟨⟨?_, ?_⟩, ?_⟩, ?_⟩ <;>
        rintro rfl <;>
        cases hc
  | _ => rfl

lemma Opens.ne_bracket {c : Char} (h : Opens c) : c ≠ ']' := by
  rintro rfl
  cases h with
  | digit hc => cases hc

lemma Opens.ne_letter {c : Char} (h : Opens c) : c ≠ 'n' := by
  rintro rfl
  cases h with
  | digit hc => cases hc

/-- **A natural number comes back from its digits.** -/
lemma takes_natural {width n : Nat} (hn : n < 2 ^ width) (hwidth : width ≤ 64) {s : List Char}
    (hs : Ends s) : Takes (natural width) (Text.decimal n ++ s) (.natural n) s := by
  obtain ⟨c, ds, hcons, hc⟩ := decimal_eq_cons n
  have hlimit : n ≤ significandLimit := by
    have hpow : 2 ^ width ≤ 2 ^ 64 := Nat.pow_le_pow_right (by decide) hwidth
    have hsize : significandLimit = 2 ^ 64 - 1 := rfl
    omega
  have hminus : ¬ some c = some '-' := by
    rintro ⟨⟩
    cases hc
  have hnumber : Takes number (Text.decimal n ++ s) (.natural n) s := by
    refine (takes_peek _).bind ?_
    rw [hcons, List.cons_append, List.head?_cons, if_neg hminus, ← List.cons_append, ← hcons]
    exact takes_unsignedNumber hlimit hs
  have htoken : Takes peekToken (Text.decimal n ++ s) (some c) (Text.decimal n ++ s) := by
    rw [hcons]
    exact takes_peekToken (Opens.digit hc).isBlank_eq _
  have hany : Takes anyNumber (Text.decimal n ++ s) (.natural n) s := by
    refine htoken.bind ?_
    dsimp only
    rw [if_pos (.inr hc)]
    exact hnumber
  refine hany.bind ?_
  dsimp only
  rw [if_pos (show n < Nat.pow 2 width from hn)]
  exact takes_pure _ s

end Meterboard.Json
