import Meterboard.Proofs.Calendar
import Meterboard.Proofs.Duration.Label

/-!
# Moments and their texts

A time is shown as the date of its day and the hours, minutes and seconds of the day.  Where a text
shows a time at all, it shows no other second: each part has a fixed width, but for the year, and a
year with more than four digits or below zero begins with its sign.

* `Moment.At` — the moment of a time, in terms of the calendar; `Moment.at_iff` — it is the one that
  is computed.
* `Moment.shown_iff` — **the times that the calendar shows.**
* `Zone.Names` — a text is what local clocks show at a time, written out; `Zone.Names.second_eq` —
  **they show it in one of their seconds only.**
* `Zone.Tells` — a text is what local clocks show, or nothing where the calendar does not reach.
* `Zone.KeepsEpoch` — local clocks are not set back over the start of 1970.
-/

namespace Meterboard.Calendar

/-! ## The moment of a time -/

namespace Moment

/-- A moment is the one of a time: the day, the hours, minutes and seconds of the day, and less than
a second make up the time. -/
structure At (m : Moment) (ms : Int) : Prop where
  hour_lt : m.hour < 24
  minute_lt : m.minute < 60
  second_lt : m.second < 60
  since : ∃ (n : Int) (rest : Nat), IsDay n m.date ∧ rest < 1000 ∧
    ms = n * dayMillis + (((m.hour * 60 + m.minute) * 60 + m.second) * 1000 + rest : Nat)

/-- **The moment of a time is the one that is computed.** -/
theorem at_iff {m : Moment} {ms : Int} : m.At ms ↔ m = ofMillis ms := by
  have hday : (0 : Int) ≤ dayMillis := by decide
  unfold ofMillis
  rw [Int.fdiv_eq_ediv_of_nonneg _ hday, Int.fmod_eq_emod_of_nonneg _ hday]
  constructor
  · rintro ⟨hhour, hminute, hsecond, n, rest, hdate, hrest, rfl⟩
    obtain ⟨date, hour, minute, second⟩ := m
    dsimp only at *
    obtain rfl := isDay_iff.1 hdate
    have hn : (n * dayMillis + (((hour * 60 + minute) * 60 + second) * 1000 + rest : Nat))
        / dayMillis = n := by
      unfold dayMillis
      omega
    have hmod : ((n * dayMillis + (((hour * 60 + minute) * 60 + second) * 1000 + rest : Nat))
        % dayMillis).toNat / 1000 = (hour * 60 + minute) * 60 + second := by
      unfold dayMillis
      omega
    simp only [hn, hmod, Moment.mk.injEq, true_and]
    omega
  · rintro rfl
    have hlt : (ms % dayMillis).toNat < 86400000 := by
      unfold dayMillis
      omega
    refine ⟨?_, ?_, ?_, ms / dayMillis, (ms % dayMillis).toNat % 1000, isDay_iff.2 rfl, by omega,
      ?_⟩
    all_goals
      dsimp only
      unfold dayMillis at *
      omega

end Moment

/-- The first and the last time that is shown. -/
def shownMillis : Int × Int := (-8334601228800000, 8210266876799999)

/-- **The times that are shown** are those from the first day of the first year to the last day of
the last. -/
theorem Moment.shown_iff {m : Moment} {ms : Int} (h : m.At ms) :
    m.Shown ↔ shownMillis.1 ≤ ms ∧ ms ≤ shownMillis.2 := by
  obtain rfl := Moment.at_iff.1 h
  have hfirst : -96465292 ≤ Int.fdiv ms dayMillis ↔
      years.1 ≤ (dateOf (Int.fdiv ms dayMillis)).year := by
    constructor
    · exact fun hle => year_mono hle
    · intro hyear
      by_contra hlt
      have hbefore : (dateOf (Int.fdiv ms dayMillis)).year ≤ (dateOf (-96465293)).year :=
        year_mono (by omega)
      exact absurd (hyear.trans hbefore) (by decide)
  have hlast : Int.fdiv ms dayMillis ≤ 95026236 ↔
      (dateOf (Int.fdiv ms dayMillis)).year ≤ years.2 := by
    constructor
    · exact fun hle => year_mono hle
    · intro hyear
      by_contra hlt
      have hafter : (dateOf 95026237).year ≤ (dateOf (Int.fdiv ms dayMillis)).year :=
        year_mono (by omega)
      exact absurd (hafter.trans hyear) (by decide)
  unfold Moment.Shown ofMillis
  rw [← hfirst, ← hlast, Int.fdiv_eq_ediv_of_nonneg _ (by decide)]
  unfold dayMillis shownMillis
  omega

/-! ## What is written -/

/-- A number that is padded with zeros has the same value. -/
lemma valueOf_padded (width n : Nat) : Text.valueOf (Text.padded width n) = n := by
  have hzeros (k : Nat) :
      (List.replicate k '0').foldl (fun n c => 10 * n + Text.digitValue c) 0 = 0 := by
    induction k with
    | zero => rfl
    | succ k ih => exact ih
  rw [Text.padded, List.leftpad, Text.valueOf, List.foldl_append, hzeros]
  exact (Text.natural?_eq_some_iff.1 (Text.natural?_decimal n)).2.2

lemma padded_inj {width m n : Nat} (h : Text.padded width m = Text.padded width n) : m = n := by
  rw [← valueOf_padded width m, h, valueOf_padded]

lemma isDigit_of_mem_padded {width n : Nat} {c : Char} (h : c ∈ Text.padded width n) :
    c.isDigit = true := by
  rw [Text.padded, List.leftpad, List.mem_append] at h
  rcases h with h | h
  · rw [List.eq_of_mem_replicate h]
    rfl
  · exact (Text.natural?_eq_some_iff.1 (Text.natural?_decimal n)).2.1 c h

/-- No year is written as another: its sign tells below zero and above four digits, and a digit
tells what is between. -/
lemma yearText_inj {year year' : Int} (h : yearText year = yearText year') : year = year' := by
  have hsign : ∀ {c : Char} {n : Nat} {s : List Char}, c.isDigit = false →
      c :: s ≠ Text.padded 4 n := by
    intro c n s hc heq
    have hdigit := isDigit_of_mem_padded (heq ▸ List.mem_cons_self)
    rw [hc] at hdigit
    cases hdigit
  have hsame : ∀ {c : Char}, c :: Text.padded 4 year.natAbs = c :: Text.padded 4 year'.natAbs →
      year.natAbs = year'.natAbs := fun heq => padded_inj (List.cons.inj heq).2
  unfold yearText at h
  split_ifs at h
  · have habs := hsame h
    omega
  · cases (List.cons.inj h).1
  · exact absurd h (hsign rfl)
  · cases (List.cons.inj h).1
  · have habs := hsame h
    omega
  · exact absurd h (hsign rfl)
  · exact absurd h.symm (hsign rfl)
  · exact absurd h.symm (hsign rfl)
  · have habs := padded_inj h
    omega

namespace Moment

lemma length_pair {n : Nat} (h : n < 100) : (pair n).length = 2 := by
  revert n
  decide

/-- What ends in a sign and two digits is cut before them. -/
lemma append_pair_inj {front front' : List Char} {c : Char} {n n' : Nat} (hn : n < 100)
    (hn' : n' < 100) (h : front ++ c :: pair n = front' ++ c :: pair n') :
    front = front' ∧ n = n' := by
  have hlength : (c :: pair n).length = (c :: pair n').length := by
    rw [List.length_cons, List.length_cons, length_pair hn, length_pair hn']
  obtain ⟨hfront, hpair⟩ := List.append_inj' h hlength
  exact ⟨hfront, padded_inj (List.cons.inj hpair).2⟩

lemma toList_full (m : Moment) :
    m.full.toList = yearText m.date.year ++ '-' :: pair m.date.month ++ '-' :: pair m.date.day
      ++ ' ' :: pair m.hour ++ ':' :: pair m.minute ++ ':' :: pair m.second := by
  simp [full, clockChars]

/-- The month and the day of a moment have two digits. -/
lemma At.date_lt {m : Moment} {ms : Int} (h : m.At ms) : m.date.month < 100 ∧ m.date.day < 100 := by
  obtain ⟨n, -, hday, -⟩ := h.since
  have hvalid := (dateOf_spec n).1
  rw [← isDay_iff.1 hday] at hvalid
  have hmonth := hvalid.month_le
  have hlast : m.date.day ≤ 31 := hvalid.day_le.trans (monthDays_le _ _)
  omega

/-- **No moment is written as another.** -/
theorem full_inj {m m' : Moment} {ms ms' : Int} (h : m.At ms) (h' : m'.At ms')
    (heq : m.full = m'.full) : m = m' := by
  obtain ⟨hmonth, hday⟩ := h.date_lt
  obtain ⟨hmonth', hday'⟩ := h'.date_lt
  have hsixty : ∀ {n : Nat}, n < 60 → n < 100 := fun hn => hn.trans (by decide)
  have hhour : ∀ {n : Nat}, n < 24 → n < 100 := fun hn => hn.trans (by decide)
  have htext := congrArg String.toList heq
  rw [toList_full, toList_full] at htext
  obtain ⟨htext, hseconds⟩ := append_pair_inj (hsixty h.second_lt) (hsixty h'.second_lt) htext
  obtain ⟨htext, hminutes⟩ := append_pair_inj (hsixty h.minute_lt) (hsixty h'.minute_lt) htext
  obtain ⟨htext, hhours⟩ := append_pair_inj (hhour h.hour_lt) (hhour h'.hour_lt) htext
  obtain ⟨htext, hdays⟩ := append_pair_inj hday hday' htext
  obtain ⟨htext, hmonths⟩ := append_pair_inj hmonth hmonth' htext
  have hyears := yearText_inj htext
  obtain ⟨⟨year, month, day⟩, hour, minute, second⟩ := m
  obtain ⟨⟨year', month', day'⟩, hour', minute', second'⟩ := m'
  dsimp only at hseconds hminutes hhours hdays hmonths hyears
  subst hseconds hminutes hhours hdays hmonths hyears
  rfl

lemma full_ne_empty (m : Moment) : m.full ≠ "" := by
  intro h
  have htext := congrArg String.toList h
  rw [toList_full] at htext
  simp at htext

/-- Two times have one moment only in the same second. -/
lemma At.second_eq {m : Moment} {ms ms' : Int} (h : m.At ms) (h' : m.At ms') :
    ms / 1000 = ms' / 1000 := by
  obtain ⟨n, rest, hday, hrest, rfl⟩ := h.since
  obtain ⟨n', rest', hday', hrest', rfl⟩ := h'.since
  have hn : n = n' := by
    rw [← (dateOf_spec n).2, ← isDay_iff.1 hday, isDay_iff.1 hday', (dateOf_spec n').2]
  subst hn
  unfold dayMillis
  omega

end Moment

/-! ## Texts of times -/

namespace Zone

variable {z : Zone} {text : String} {ms ms' : Int}

/-- A text is what local clocks show at a time, written out. -/
def Names (z : Zone) (text : String) (ms : Int) : Prop :=
  ∃ m : Moment, m.At (z.clock ms) ∧ m.full = text

/-- **A text names one second** of local clocks. -/
theorem Names.second_eq (h : z.Names text ms) (h' : z.Names text ms') :
    z.clock ms / 1000 = z.clock ms' / 1000 := by
  obtain ⟨m, hm, rfl⟩ := h
  obtain ⟨m', hm', hfull⟩ := h'
  obtain rfl := Moment.full_inj hm' hm hfull
  exact hm'.second_eq hm |>.symm

lemma Names.ne_empty (h : z.Names text ms) : text ≠ "" := by
  obtain ⟨m, -, rfl⟩ := h
  exact m.full_ne_empty

/-- Local clocks are not set back over the start of 1970: what they show before it they do not show
again after it. -/
def KeepsEpoch (z : Zone) : Prop :=
  ∀ before after : Int, before < 0 → 0 ≤ after → z.clock before / 1000 < z.clock after / 1000

/-- The text of a time from 1970 on names no time before. -/
lemma KeepsEpoch.not_names (hz : z.KeepsEpoch) (h : z.Names text ms) (hms : 0 ≤ ms)
    (hms' : ms' < 0) : ¬ z.Names text ms' := by
  intro h'
  have hlt := hz ms' ms hms' hms
  have hsecond := h'.second_eq h
  omega

/-- Clocks that are always ahead by the same are never set back. -/
lemma keepsEpoch_fixed (seconds : Int) : KeepsEpoch ⟨fun _ => seconds⟩ := by
  intro before after hbefore hafter
  dsimp only [clock]
  omega

/-- A text tells a time: it is what local clocks show at the time, written out, or nothing if the
calendar does not show the moment of universal clocks. -/
inductive Tells (z : Zone) : String → Int → Prop
  | moment {u m : Moment} {ms : Int} : u.At ms → u.Shown → m.At (z.clock ms) → Tells z m.full ms
  | nothing {u : Moment} {ms : Int} : u.At ms → ¬ u.Shown → Tells z "" ms

lemma Tells.cases_shown (h : z.Tells text ms) :
    (z.Names text ms ∧ shownMillis.1 ≤ ms ∧ ms ≤ shownMillis.2) ∨
      text = "" ∧ ¬ (shownMillis.1 ≤ ms ∧ ms ≤ shownMillis.2) := by
  cases h with
  | moment hu hshown hm => exact .inl ⟨⟨_, hm, rfl⟩, (Moment.shown_iff hu).1 hshown⟩
  | nothing hu hshown => exact .inr ⟨rfl, fun h => hshown ((Moment.shown_iff hu).2 h)⟩

/-- Nothing tells a time that is not shown, and nothing else does. -/
lemma tells_of_not_shown (h : ¬ (shownMillis.1 ≤ ms ∧ ms ≤ shownMillis.2)) :
    z.Tells text ms ↔ text = "" := by
  have hu : (ofMillis ms).At ms := Moment.at_iff.2 rfl
  constructor
  · intro htells
    rcases htells.cases_shown with ⟨-, hshown⟩ | ⟨hempty, -⟩
    · exact absurd hshown h
    · exact hempty
  · rintro rfl
    exact .nothing hu fun hshown => h ((Moment.shown_iff hu).1 hshown)

end Zone

end Meterboard.Calendar
