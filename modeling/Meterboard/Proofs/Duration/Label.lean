import Mathlib.Order.Bounds.Basic
import Mathlib.Tactic.SplitIfs
import Meterboard.Proofs.Duration

/-!
# What the label of a duration stands for

A duration is shown in one unit, rounded down, so its label stands for another duration.  A window
is doubled and halved as it is shown, and then the loss counts.

**The unit.**  `unitFor_largest` — the largest unit that fits, though a year only where there is
more than one.  Durations of different units are on different sides of the larger unit
(`unitFor_eq_of_lt`), and that makes rounding monotone.

**Rounding.**  `shown` — whole units of a number of seconds.  Less than half of it is lost
(`lt_two_mul_shown`), a longer duration is not shown as a shorter one (`shown_mono`), and what is
shown is shown as it is, but for the single year (`label?_shown`).

**Reading.**  `read_of_label?` — a label is read exactly, and as what is shown; `StandsFor` relates
a label to both durations, and `label_standsFor` says all of this about every duration.
-/

namespace Meterboard

namespace Text

/-- The digits of a number are read as that number. -/
lemma natural?_decimal (n : Nat) : natural? (decimal n) = some n := by
  have hdigits : decimal n = Nat.toDigits 10 n := String.toList_ofList
  rw [hdigits, natural?_eq_some_iff]
  exact ⟨Nat.toDigits_ne_nil, fun _ hc => Nat.isDigit_of_mem_toDigits (by decide) (by decide) hc,
    Nat.ofDigitChars_ten_toDigits⟩

end Text

namespace Duration

/-! ## The unit -/

lemma seconds_unitFor_le {n : Nat} (h : 0 < n) : (unitFor n).seconds ≤ n := by
  unfold unitFor
  split_ifs <;> simp only [Unit.seconds] at * <;> omega

/-- **The largest unit that fits**: a larger one does not, or is a year that fits exactly. -/
lemma unitFor_largest (n : Nat) {u : Unit} (h : (unitFor n).seconds < u.seconds) :
    n < u.seconds ∨ (u = .year ∧ n = Unit.year.seconds) := by
  unfold unitFor at h
  cases u <;> split_ifs at h <;> simp only [Unit.seconds] at * <;> simp <;> omega

/-- A duration above the unit of a longer one has the same unit. -/
lemma unitFor_eq_of_lt {m n : Nat} (hle : m ≤ n) (hlt : (unitFor n).seconds < m) :
    unitFor m = unitFor n := by
  unfold unitFor at hlt ⊢
  split_ifs at hlt ⊢ <;> first | rfl | (simp only [Unit.seconds] at *; omega)

/-- One unit is shown in that unit, but for a year. -/
lemma unitFor_seconds {u : Unit} (h : u ≠ .year) : unitFor u.seconds = u := by
  cases u with
  | year => exact absurd rfl h
  | _ => rfl

/-! ## Rounding -/

/-- What is left of a number of seconds when it is shown: whole units. -/
def shown (n : Nat) : Nat := n / (unitFor n).seconds * (unitFor n).seconds

lemma shown_le (n : Nat) : shown n ≤ n := Nat.div_mul_le_self _ _

lemma dvd_shown (n : Nat) : (unitFor n).seconds ∣ shown n := Nat.dvd_mul_left _ _

/-- At least one unit is left. -/
lemma seconds_le_shown {n : Nat} (h : 0 < n) : (unitFor n).seconds ≤ shown n :=
  Nat.le_of_dvd (Nat.mul_pos (Nat.div_pos (seconds_unitFor_le h) (unitFor n).seconds_pos)
    (unitFor n).seconds_pos) (dvd_shown n)

lemma shown_pos {n : Nat} (h : 0 < n) : 0 < shown n :=
  Nat.lt_of_lt_of_le (unitFor n).seconds_pos (seconds_le_shown h)

/-- Less than half of a duration is lost: the rest is below one unit, and one unit is left. -/
lemma lt_two_mul_shown {n : Nat} (h : 0 < n) : n < 2 * shown n := by
  have hrest : n % (unitFor n).seconds < (unitFor n).seconds := Nat.mod_lt n (unitFor n).seconds_pos
  have hsplit : shown n + n % (unitFor n).seconds = n := Nat.div_add_mod' n _
  have hunit := seconds_le_shown h
  omega

/-- No longer number of whole units fits. -/
lemma le_shown {m n : Nat} (hunit : (unitFor n).seconds ∣ m) (hle : m ≤ n) : m ≤ shown n := by
  obtain ⟨k, rfl⟩ := hunit
  rw [shown, Nat.mul_comm]
  exact Nat.mul_le_mul_right _ ((Nat.le_div_iff_mul_le (unitFor n).seconds_pos).2
    (by rwa [Nat.mul_comm]))

/-- **A longer duration is not shown as a shorter one.** -/
lemma shown_mono {m n : Nat} (h : m ≤ n) : shown m ≤ shown n := by
  rcases Nat.eq_zero_or_pos n with rfl | hpos
  · obtain rfl := Nat.le_zero.1 h
    exact Nat.le_refl _
  by_cases hunit : (unitFor n).seconds < m
  · refine le_shown ?_ ((shown_le m).trans h)
    rw [← unitFor_eq_of_lt h hunit]
    exact dvd_shown m
  · -- one unit of the longer duration is at least as long as the shorter one
    exact (shown_le m).trans ((Nat.not_lt.1 hunit).trans (seconds_le_shown hpos))

/-- What is shown has the same unit, unless it is a single year. -/
lemma unitFor_shown {n : Nat} (h : 0 < n) (hyear : shown n ≠ Unit.year.seconds) :
    unitFor (shown n) = unitFor n := by
  rcases Nat.lt_or_eq_of_le (seconds_le_shown h) with hlt | hsame
  · exact unitFor_eq_of_lt (shown_le n) hlt
  · rw [← hsame]
    refine unitFor_seconds fun hunit => hyear ?_
    rw [← hsame, hunit]

/-- A single year is shown of what is more than one year and less than two. -/
lemma shown_eq_year_iff (n : Nat) :
    shown n = Unit.year.seconds ↔ Unit.year.seconds < n ∧ n < 2 * Unit.year.seconds := by
  unfold shown unitFor
  split_ifs <;> simp only [Unit.seconds] at * <;> omega

/-! ## Labels -/

lemma label?_of_nonpos {s : Int} (h : s ≤ 0) : label? s = none := by
  match s with
  | .negSucc _ => rfl
  | .ofNat 0 => rfl
  | .ofNat (n + 1) => exact absurd h (by simp)

/-- The label of a positive duration is a number of units. -/
lemma label?_natCast {n : Nat} (h : 0 < n) :
    label? n = some (String.ofList
      (Text.decimal (n / (unitFor n).seconds) ++ [(unitFor n).letter])) := by
  obtain ⟨m, rfl⟩ := Nat.exists_eq_succ_of_ne_zero h.ne'
  rfl

/-- **A label is read exactly**, and as what is shown. -/
lemma read_of_label? {n : Nat} {text : String} (hpos : 0 < n) (hlimit : n ≤ limit)
    (h : label? n = some text) : read text = .exact (shown n : Nat) := by
  rw [label?_natCast hpos] at h
  cases h
  have hwritten : written? (Text.decimal (n / (unitFor n).seconds) ++ [(unitFor n).letter])
      = some (n / (unitFor n).seconds, unitFor n) :=
    written?_eq_some_iff.2 ⟨_, Text.natural?_decimal _, .inl rfl⟩
  rw [read, String.toList_ofList, readChars, hwritten]
  exact if_pos ((shown_le n).trans hlimit)

/-- What is shown has the label of the duration, unless it is a single year. -/
lemma label?_shown {n : Nat} (h : 0 < n) (hyear : shown n ≠ Unit.year.seconds) :
    label? (shown n) = label? n := by
  have hcount : shown n / (unitFor n).seconds = n / (unitFor n).seconds :=
    Nat.mul_div_cancel _ (unitFor n).seconds_pos
  rw [label?_natCast h, label?_natCast (shown_pos h), unitFor_shown h hyear, hcount]

/-- More than one year and less than two is shown as one year. -/
lemma label?_of_shown_eq_year {n : Nat} (h : shown n = Unit.year.seconds) :
    label? n = some "1y" := by
  obtain ⟨hmore, hless⟩ := (shown_eq_year_iff n).1 h
  have hunit : unitFor n = .year := if_pos hmore
  have hcount : n / Unit.year.seconds = 1 := by
    simp only [Unit.seconds] at hmore hless ⊢
    omega
  rw [label?_natCast (by omega), hunit, hcount]
  rfl

/-- One year is shown in weeks. -/
lemma label?_year : label? (Unit.year.seconds : Nat) = some "52w" := by decide

/-- A text is the label of a duration and is read exactly, as another one. -/
structure StandsFor (text : String) (s d : Int) : Prop where
  label : label? s = some text
  read : Duration.read text = .exact d

lemma standsFor_iff {n : Nat} (hpos : 0 < n) (hlimit : n ≤ limit) {text : String} {d : Int} :
    StandsFor text n d ↔ label? n = some text ∧ d = (shown n : Nat) := by
  constructor
  · rintro ⟨hlabel, hread⟩
    rw [read_of_label? hpos hlimit hlabel] at hread
    exact ⟨hlabel, (Reading.exact.inj hread).symm⟩
  · rintro ⟨hlabel, rfl⟩
    exact ⟨hlabel, read_of_label? hpos hlimit hlabel⟩

/-- **A duration and the one its label stands for.**

* What is not positive has no label.
* The label of any other duration is read exactly, without passing the limit, as the largest number
  of whole units that fits.  The unit is the one the label ends in, and no larger one fits, unless
  it is a year that fits exactly.
* So it is positive and not above the duration, which is less than twice as long.
* Longer durations do not have labels for shorter ones.
* It has the same label itself just where the duration is not between one and two years.  There
  the label is that of one year, and one year is shown as 52 weeks. -/
theorem label_standsFor (s : Int) :
    (s ≤ 0 → label? s = none) ∧
    (0 < s → s ≤ limit → ∃ text d, StandsFor text s d ∧
      text.toList.getLast? = some (unitFor s.toNat).letter ∧
      (∀ u : Unit, (unitFor s.toNat).seconds < u.seconds →
        s < u.seconds ∨ (u = .year ∧ s = Unit.year.seconds)) ∧
      IsGreatest {m : Int | ((unitFor s.toNat).seconds : Int) ∣ m ∧ m ≤ s} d ∧
      (0 < d ∧ d ≤ s ∧ s < 2 * d) ∧
      (∀ t text' d', s ≤ t → t ≤ limit → StandsFor text' t d' → d ≤ d') ∧
      (label? d = some text ↔ ¬ (Unit.year.seconds < s ∧ s < 2 * Unit.year.seconds)) ∧
      (Unit.year.seconds < s → s < 2 * Unit.year.seconds →
        text = "1y" ∧ d = Unit.year.seconds ∧ label? d = some "52w")) := by
  refine ⟨label?_of_nonpos, fun hpos hlimit => ?_⟩
  obtain ⟨n, rfl⟩ := Int.eq_ofNat_of_zero_le hpos.le
  have hpos : 0 < n := by omega
  have hlimit : n ≤ limit := by omega
  have hlabel := label?_natCast hpos
  have hloss := lt_two_mul_shown hpos
  have hle := shown_le n
  refine ⟨_, (shown n : Nat), (standsFor_iff hpos hlimit).2 ⟨hlabel, rfl⟩, by simp, fun u hu => ?_,
    ⟨⟨?_, ?_⟩, ?_⟩, by omega, ?_, ?_, ?_⟩
  · rcases unitFor_largest n hu with hshort | ⟨rfl, hyear⟩
    · exact .inl (by exact_mod_cast hshort)
    · exact .inr ⟨rfl, by exact_mod_cast hyear⟩
  · exact Int.natCast_dvd_natCast.2 (dvd_shown n)
  · exact_mod_cast hle
  · rintro m ⟨hunit, hm⟩
    rcases lt_or_ge m 0 with hneg | hnonneg
    · omega
    · obtain ⟨m, rfl⟩ := Int.eq_ofNat_of_zero_le hnonneg
      exact_mod_cast le_shown (Int.natCast_dvd_natCast.1 hunit) (by exact_mod_cast hm)
  · intro t text' d' ht htlimit hother
    obtain ⟨m, rfl⟩ := Int.eq_ofNat_of_zero_le (by omega : 0 ≤ t)
    obtain ⟨-, rfl⟩ := (standsFor_iff (by omega) (by omega)).1 hother
    exact_mod_cast shown_mono (by exact_mod_cast ht)
  · have hband := shown_eq_year_iff n
    by_cases hyear : shown n = Unit.year.seconds
    · have hlost : label? n ≠ some "52w" := by rw [label?_of_shown_eq_year hyear]; decide
      rw [← hlabel, hyear, label?_year]
      exact iff_of_false (fun hsame => hlost hsame.symm) fun hout => hout (by omega)
    · rw [← hlabel]
      exact iff_of_true (label?_shown hpos hyear) fun hin => hyear (hband.2 (by omega))
  · intro hmore hless
    have hyear := (shown_eq_year_iff n).2 ⟨by exact_mod_cast hmore, by exact_mod_cast hless⟩
    have htext := hlabel.symm.trans (label?_of_shown_eq_year hyear)
    exact ⟨Option.some.inj htext, by rw [hyear], by rw [hyear, label?_year]⟩

/-- A year and a half, and the longest duration: the first is shown as a year, which is shown in
weeks, and the second loses less than half. -/
theorem label_standsFor_halves :
    StandsFor "1y" 47304000 31536000 ∧ label? 31536000 = some "52w" ∧
    ∃ text d, StandsFor text limit d ∧ label? d = some text ∧ limit < 2 * d ∧ 31536000 ≤ d := by
  obtain ⟨text, d, hstands, -, -, -, -, hmono, -, hyear⟩ :=
    (label_standsFor 47304000).2 (by decide) (by decide)
  obtain ⟨rfl, rfl, hweeks⟩ := hyear (by decide) (by decide)
  obtain ⟨text', d', hstands', -, -, -, ⟨-, -, hhalf⟩, -, hsame, -⟩ :=
    (label_standsFor limit).2 (by decide) (by decide)
  exact ⟨hstands, hweeks, text', d', hstands', hsame.2 (by decide), hhalf,
    hmono limit text' d' (by decide) (by decide) hstands'⟩

end Duration

end Meterboard
