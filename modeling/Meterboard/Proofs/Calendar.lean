import Mathlib.Tactic.IntervalCases
import Mathlib.Tactic.SplitIfs
import Meterboard.Calendar

/-!
# Days of the calendar

The date of a day number is computed in closed form.  Here it is compared with the calendar as it
is kept day by day: the months have their lengths, February by the rule of leap years, and after the
last day of a month comes the first of the next.

* `IsDay` — the days by their number, counted from the first of January 1970 in both directions.
* `Cycles` — a year in its era, century and leap cycle; `Cycles.yearOfEra` — why the quotient in
  `dateOf` is the year of a day.
* `InYear` — the dates of a year from March on, in which the computation is done.  The date of a day
  and the number of a date are proved for it, one case for each part of the year.
* `isDay_iff` — **the date of a day number is the day with that number.**
-/

namespace Meterboard.Calendar

/-! ## The calendar -/

/-- A year with a leap day: every fourth, but of the centuries only every fourth again. -/
def IsLeap (year : Int) : Prop := year % 4 = 0 ∧ (year % 100 ≠ 0 ∨ year % 400 = 0)

instance (year : Int) : Decidable (IsLeap year) :=
  inferInstanceAs (Decidable (year % 4 = 0 ∧ (year % 100 ≠ 0 ∨ year % 400 = 0)))

/-- The number of days in a month. -/
def monthDays (year : Int) (month : Nat) : Nat :=
  if month = 2 then if IsLeap year then 29 else 28
  else if month = 4 ∨ month = 6 ∨ month = 9 ∨ month = 11 then 30
  else 31

lemma monthDays_pos (year : Int) (month : Nat) : 1 ≤ monthDays year month := by
  unfold monthDays
  split_ifs <;> decide

lemma monthDays_le (year : Int) (month : Nat) : monthDays year month ≤ 31 := by
  unfold monthDays
  split_ifs <;> decide

namespace Date

/-- The month is one of the year, and the day one of the month. -/
structure Valid (d : Date) : Prop where
  month_pos : 1 ≤ d.month
  month_le : d.month ≤ 12
  day_pos : 1 ≤ d.day
  day_le : d.day ≤ monthDays d.year d.month

/-- The day after a date. -/
def tomorrow (d : Date) : Date :=
  if d.day < monthDays d.year d.month then ⟨d.year, d.month, d.day + 1⟩
  else if d.month < 12 then ⟨d.year, d.month + 1, 1⟩
  else ⟨d.year + 1, 1, 1⟩

end Date

/-- The days by their number: the first of January 1970 has the number 0, and the number of the day
after is one more. -/
inductive IsDay : Int → Date → Prop
  | epoch : IsDay 0 ⟨1970, 1, 1⟩
  | tomorrow {n : Int} {d : Date} : IsDay n d → IsDay (n + 1) d.tomorrow
  | yesterday {n : Int} {d : Date} : d.Valid → IsDay (n + 1) d.tomorrow → IsDay n d

/-! ## Years from March -/

/-- The days from the first of March of the year 0 to that of another year. -/
def firstOfMarch (year : Int) : Int := 365 * year + year / 4 - year / 100 + year / 400

/-- The number of days in a year from March on. -/
def marchDays (year : Int) : Nat := if IsLeap (year + 1) then 366 else 365

lemma marchDays_cases (year : Int) :
    (IsLeap (year + 1) ∧ marchDays year = 366) ∨ (¬ IsLeap (year + 1) ∧ marchDays year = 365) := by
  unfold marchDays
  split_ifs with h
  · exact .inl ⟨h, rfl⟩
  · exact .inr ⟨h, rfl⟩

lemma firstOfMarch_succ (year : Int) :
    firstOfMarch (year + 1) = firstOfMarch year + marchDays year := by
  have hdays := marchDays_cases year
  unfold firstOfMarch
  unfold IsLeap at hdays
  omega

/-- A year in its era of four hundred years: the century, the leap cycle in the century, and the
year in the cycle. -/
structure Cycles (year era : Int) (century cycle inCycle : Nat) : Prop where
  century_le : century ≤ 3
  cycle_le : cycle ≤ 24
  inCycle_le : inCycle ≤ 3
  eq : year = 400 * era + 100 * century + 4 * cycle + inCycle

lemma exists_cycles (year : Int) : ∃ c q s, Cycles year (year / 400) c q s :=
  ⟨(year % 400 / 100).toNat, (year % 100 / 4).toNat, (year % 4).toNat,
    by omega, by omega, by omega, by omega⟩

namespace Cycles

variable {year era : Int} {c q s : Nat}

lemma firstOfMarch_eq (h : Cycles year era c q s) :
    firstOfMarch year = 146097 * era + 36524 * c + 1461 * q + 365 * s := by
  obtain ⟨hc, hq, hs, rfl⟩ := h
  have hfour : (400 * era + 100 * c + 4 * q + s) / 4 = 100 * era + 25 * c + q := by omega
  have hhundred : (400 * era + 100 * c + 4 * q + s) / 100 = 4 * era + c := by omega
  have hera : (400 * era + 100 * c + 4 * q + s) / 400 = era := by omega
  rw [firstOfMarch, hfour, hhundred, hera]
  omega

/-- A year from March has a leap day at its end if it is the last of its cycle, and this is not the
last of its century, or the last of an era. -/
lemma lt_marchDays_iff (h : Cycles year era c q s) {day : Nat} :
    day < marchDays year ↔ day < 365 ∨ day = 365 ∧ s = 3 ∧ (q = 24 → c = 3) := by
  obtain ⟨hc, hq, hs, rfl⟩ := h
  have hdays := marchDays_cases (400 * era + 100 * c + 4 * q + s)
  unfold IsLeap at hdays
  omega

/-- The year of a day of the era: without the leap days before it, 365 days are a year. -/
lemma yearOfEra (h : Cycles year era c q s) {day doe : Nat} (hday : day < marchDays year)
    (hdoe : doe = 36524 * c + 1461 * q + 365 * s + day) :
    (doe - doe / 1460 + doe / 36524 - doe / 146096) / 365 = 100 * c + 4 * q + s := by
  rw [h.lt_marchDays_iff] at hday
  obtain ⟨hc, hq, hs, -⟩ := h
  by_cases hlast : doe = 146096
  · subst hlast
    omega
  · have hcentury : doe / 36524 = c := by omega
    have hcycle : doe / 1460 = 25 * c + q ∨ doe / 1460 = 25 * c + q + 1 := by omega
    omega

end Cycles

/-- Every day is one of a year from March. -/
lemma exists_firstOfMarch (z : Int) :
    ∃ (year : Int) (day : Nat), day < marchDays year ∧ z = firstOfMarch year + day := by
  obtain ⟨c, d, hc, hd, hz, hlast⟩ : ∃ c d : Nat, c ≤ 3 ∧ d ≤ 36524 ∧
      z % 146097 = 36524 * c + d ∧ (d = 36524 → c = 3) := by
    by_cases hlast : z % 146097 = 146096
    · exact ⟨3, 36524, by omega, by omega, by omega, by omega⟩
    · exact ⟨(z % 146097).toNat / 36524, (z % 146097).toNat % 36524,
        by omega, by omega, by omega, by omega⟩
  obtain ⟨q, e, hq, he, hcycle⟩ : ∃ q e, q ≤ 24 ∧ e ≤ 1460 ∧ d = 1461 * q + e :=
    ⟨d / 1461, d % 1461, by omega, by omega, by omega⟩
  obtain ⟨s, day, hs, hday, hyear⟩ : ∃ s day, s ≤ 3 ∧ (day < 365 ∨ day = 365 ∧ s = 3) ∧
      e = 365 * s + day := by
    by_cases hlast : e = 1460
    · exact ⟨3, 365, by omega, by omega, by omega⟩
    · exact ⟨e / 365, e % 365, by omega, by omega, by omega⟩
  have hcycles : Cycles (400 * (z / 146097) + 100 * c + 4 * q + s) (z / 146097) c q s :=
    ⟨hc, hq, hs, rfl⟩
  refine ⟨400 * (z / 146097) + 100 * c + 4 * q + s, day, ?_, ?_⟩
  · rw [hcycles.lt_marchDays_iff]
    omega
  · rw [hcycles.firstOfMarch_eq]
    omega

/-- The date of a day of a year from March, as it is computed. -/
def dateInYear (year : Int) (day : Nat) : Date :=
  let monthFromMarch := (5 * day + 2) / 153
  let month := if monthFromMarch < 10 then monthFromMarch + 3 else monthFromMarch - 9
  ⟨if month ≤ 2 then year + 1 else year, month, day - (153 * monthFromMarch + 2) / 5 + 1⟩

lemma dateOf_firstOfMarch {year : Int} {day : Nat} (hday : day < marchDays year) :
    dateOf (firstOfMarch year + day - epochShift) = dateInYear year day := by
  obtain ⟨c, q, s, hcycles⟩ := exists_cycles year
  have hsmall := hday
  rw [hcycles.lt_marchDays_iff] at hsmall
  have hfirst := hcycles.firstOfMarch_eq
  have hyear := hcycles.yearOfEra hday rfl
  obtain ⟨hc, hq, hs, heq⟩ := hcycles
  have hera : (firstOfMarch year + day) / eraDays = year / 400 := by
    unfold eraDays
    omega
  have hrest : (firstOfMarch year + day) % eraDays
      = (36524 * c + 1461 * q + 365 * s + day : Nat) := by
    unfold eraDays at *
    omega
  have hcycles : (365 * (100 * c + 4 * q + s) + (100 * c + 4 * q + s) / 4
      - (100 * c + 4 * q + s) / 100) = 36524 * c + 1461 * q + 365 * s := by
    omega
  simp only [dateOf, Int.sub_add_cancel, Int.fdiv_eq_ediv_of_nonneg _ (show 0 ≤ eraDays by decide),
    Int.fmod_eq_emod_of_nonneg _ (show 0 ≤ eraDays by decide), hera, hrest, Int.toNat_natCast,
    hyear, hcycles, Nat.add_sub_cancel_left]
  have hback : year / 400 * 400 + (100 * c + 4 * q + s : Nat) = year := by omega
  rw [hback]
  rfl

/-! ## Months from March -/

lemma marchDays_le (year : Int) : marchDays year ≤ 366 := by
  rcases marchDays_cases year with ⟨-, h⟩ | ⟨-, h⟩ <;> omega

/-- From March to December, each month ends where the next begins. -/
lemma monthDays_early (year : Int) {k : Nat} (h : k < 10) :
    (153 * k + 2) / 5 + monthDays year (k + 3) = (153 * (k + 1) + 2) / 5 := by
  interval_cases k <;> rfl

lemma monthDays_january (year : Int) : monthDays year 1 = 31 := rfl

/-- February ends with the year. -/
lemma monthDays_february (year : Int) : 337 + monthDays (year + 1) 2 = marchDays year := by
  rw [monthDays, if_pos rfl, marchDays]
  split_ifs <;> rfl

/-- A date is the one of a day of a year from March. -/
inductive InYear (year : Int) : Nat → Date → Prop
  | early {k i : Nat} : k < 10 → i < monthDays year (k + 3) →
      InYear year ((153 * k + 2) / 5 + i) ⟨year, k + 3, i + 1⟩
  | january {i : Nat} : i < monthDays (year + 1) 1 → InYear year (306 + i) ⟨year + 1, 1, i + 1⟩
  | february {i : Nat} : i < monthDays (year + 1) 2 → InYear year (337 + i) ⟨year + 1, 2, i + 1⟩

namespace InYear

variable {year : Int} {day : Nat} {d : Date}

lemma valid (h : InYear year day d) : d.Valid := by
  cases h with
  | early hk hi => exact ⟨Nat.le_add_left 1 _, Nat.add_le_add_right (Nat.le_of_lt_succ hk) 3,
      Nat.le_add_left 1 _, hi⟩
  | january hi => exact ⟨Nat.le_refl 1, Nat.le_of_ble_eq_true rfl, Nat.le_add_left 1 _, hi⟩
  | february hi =>
      exact ⟨Nat.le_of_ble_eq_true rfl, Nat.le_of_ble_eq_true rfl, Nat.le_add_left 1 _, hi⟩

lemma lt_marchDays (h : InYear year day d) : day < marchDays year := by
  have hfebruary := monthDays_february year
  cases h with
  | @early k i hk hi =>
      have hdays := monthDays_early year hk
      have hpos := monthDays_pos (year + 1) 2
      omega
  | january hi =>
      rw [monthDays_january] at hi
      omega
  | february hi => omega

lemma dateInYear_eq (h : InYear year day d) : dateInYear year day = d := by
  unfold dateInYear
  cases h with
  | @early k i hk hi =>
      have hdays := monthDays_early year hk
      have hmonth : (5 * ((153 * k + 2) / 5 + i) + 2) / 153 = k := by omega
      simp only [hmonth, if_pos hk, if_neg (show ¬ k + 3 ≤ 2 by omega), Nat.add_sub_cancel_left]
  | @january i hi =>
      rw [monthDays_january] at hi
      have hmonth : (5 * (306 + i) + 2) / 153 = 10 := by omega
      simp [hmonth]
  | @february i hi =>
      have hdays := monthDays_february year
      have hlast := marchDays_le year
      have hmonth : (5 * (337 + i) + 2) / 153 = 11 := by omega
      simp [hmonth]

lemma dayNumber_eq (h : InYear year day d) :
    d.dayNumber = firstOfMarch year + day - epochShift := by
  have hyear : Int.fdiv year 400 * eraDays + (Int.fmod year 400 * 365 + Int.fmod year 400 / 4
      - Int.fmod year 400 / 100) = firstOfMarch year := by
    rw [Int.fdiv_eq_ediv_of_nonneg _ (by decide), Int.fmod_eq_emod_of_nonneg _ (by decide), eraDays,
      firstOfMarch]
    omega
  unfold Date.dayNumber
  rw [← hyear]
  cases h with
  | @early k i hk hi =>
      simp only [if_neg (show ¬ k + 3 ≤ 2 by omega), Nat.add_sub_cancel]
      omega
  | january hi =>
      simp only [if_pos (show 1 ≤ 2 by decide), Int.add_sub_cancel]
      omega
  | february hi =>
      simp only [if_pos (show 2 ≤ 2 by decide), Int.add_sub_cancel]
      omega

/-- The day after a date is the next of its year, or the first of the next. -/
lemma tomorrow (h : InYear year day d) :
    InYear year (day + 1) d.tomorrow ∨
      day + 1 = marchDays year ∧ InYear (year + 1) 0 d.tomorrow := by
  unfold Date.tomorrow
  cases h with
  | @early k i hk hi =>
      by_cases hlast : i + 1 < monthDays year (k + 3)
      · rw [if_pos hlast]
        exact .inl (.early hk hlast)
      · have hdays := monthDays_early year hk
        rw [if_neg hlast]
        by_cases hyear : k + 1 < 10
        · have hnext : (153 * k + 2) / 5 + i + 1 = (153 * (k + 1) + 2) / 5 + 0 := by omega
          rw [if_pos (show k + 3 < 12 by omega), hnext]
          exact .inl (.early hyear (monthDays_pos _ _))
        · have hnext : (153 * k + 2) / 5 + i + 1 = 306 + 0 := by omega
          rw [if_neg (show ¬ k + 3 < 12 by omega), hnext]
          exact .inl (.january (monthDays_pos _ _))
  | @january i hi =>
      rw [monthDays_january] at hi
      by_cases hlast : i + 1 < monthDays (year + 1) 1
      · rw [if_pos hlast]
        exact .inl (.january hlast)
      · rw [if_neg hlast, if_pos (show 1 < 12 by decide)]
        rw [monthDays_january] at hlast
        have hnext : 306 + i + 1 = 337 + 0 := by omega
        rw [hnext]
        exact .inl (.february (monthDays_pos _ _))
  | @february i hi =>
      by_cases hlast : i + 1 < monthDays (year + 1) 2
      · rw [if_pos hlast]
        exact .inl (.february hlast)
      · have hdays := monthDays_february year
        rw [if_neg hlast, if_pos (show 2 < 12 by decide)]
        exact .inr ⟨by omega, .early (Nat.zero_lt_succ 9) (monthDays_pos _ _)⟩

end InYear

/-- Every day of a year from March has a date. -/
lemma exists_inYear {year : Int} {day : Nat} (h : day < marchDays year) :
    ∃ d, InYear year day d := by
  have hlast := marchDays_le year
  have hfebruary := monthDays_february year
  obtain ⟨k, i, hk, hday, hi⟩ : ∃ k i, k < 12 ∧ day = (153 * k + 2) / 5 + i ∧
      day < (153 * (k + 1) + 2) / 5 :=
    ⟨(5 * day + 2) / 153, day - (153 * ((5 * day + 2) / 153) + 2) / 5, by omega, by omega,
      by omega⟩
  subst hday
  obtain hmonth | rfl | rfl : k < 10 ∨ k = 10 ∨ k = 11 := by omega
  · have hdays := monthDays_early year hmonth
    exact ⟨_, .early hmonth (by omega)⟩
  · exact ⟨_, .january (show i < 31 by omega)⟩
  · exact ⟨_, .february (by omega)⟩

/-- Every date is in a year from March. -/
lemma Date.Valid.inYear {d : Date} (h : d.Valid) : ∃ year day, InYear year day d := by
  obtain ⟨year, month, day⟩ := d
  obtain ⟨hpos, hle, hdaypos, hday⟩ := h
  dsimp only at hpos hle hdaypos hday
  obtain ⟨i, rfl⟩ : ∃ i, day = i + 1 := ⟨day - 1, by omega⟩
  obtain ⟨before, rfl⟩ : ∃ y, year = y + 1 := ⟨year - 1, by omega⟩
  obtain rfl | rfl | ⟨k, rfl⟩ : month = 1 ∨ month = 2 ∨ ∃ k, month = k + 3 := by
    obtain h | h | h : month = 1 ∨ month = 2 ∨ 3 ≤ month := by omega
    · exact .inl h
    · exact .inr (.inl h)
    · exact .inr (.inr ⟨month - 3, by omega⟩)
  · exact ⟨_, _, .january hday⟩
  · exact ⟨_, _, .february hday⟩
  · exact ⟨_, _, .early (by omega) hday⟩

/-! ## Dates and their numbers -/

/-- The day after a date is a date, and its number is the next. -/
lemma Date.Valid.tomorrow {d : Date} (h : d.Valid) :
    d.tomorrow.Valid ∧ d.tomorrow.dayNumber = d.dayNumber + 1 := by
  obtain ⟨year, day, hd⟩ := h.inYear
  rw [hd.dayNumber_eq]
  rcases hd.tomorrow with hnext | ⟨hlast, hnext⟩
  · refine ⟨hnext.valid, ?_⟩
    rw [hnext.dayNumber_eq]
    omega
  · refine ⟨hnext.valid, ?_⟩
    rw [hnext.dayNumber_eq, firstOfMarch_succ]
    omega

/-- The date of a number is a date, and has that number. -/
theorem dateOf_spec (n : Int) : (dateOf n).Valid ∧ (dateOf n).dayNumber = n := by
  obtain ⟨year, day, hday, hn⟩ := exists_firstOfMarch (n + epochShift)
  obtain rfl : n = firstOfMarch year + day - epochShift := by omega
  obtain ⟨d, hd⟩ := exists_inYear hday
  rw [dateOf_firstOfMarch hday, hd.dateInYear_eq]
  exact ⟨hd.valid, hd.dayNumber_eq⟩

/-- The number of a date is read back. -/
theorem dateOf_dayNumber {d : Date} (h : d.Valid) : dateOf d.dayNumber = d := by
  obtain ⟨year, day, hd⟩ := h.inYear
  rw [hd.dayNumber_eq, dateOf_firstOfMarch hd.lt_marchDays, hd.dateInYear_eq]

/-- The next number is that of the day after. -/
lemma dateOf_succ (n : Int) : dateOf (n + 1) = (dateOf n).tomorrow := by
  obtain ⟨hvalid, hnumber⟩ := dateOf_spec n
  obtain ⟨htomorrow, hnext⟩ := hvalid.tomorrow
  rw [← dateOf_dayNumber htomorrow, hnext, hnumber]

/-- **The date of a day number is the day with that number.** -/
theorem isDay_iff {n : Int} {d : Date} : IsDay n d ↔ d = dateOf n := by
  constructor
  · intro h
    induction h with
    | epoch => rfl
    | tomorrow _ ih => rw [dateOf_succ, ih]
    | @yesterday n d hvalid _ ih =>
        have hnext := hvalid.tomorrow.2
        rw [ih, (dateOf_spec (n + 1)).2] at hnext
        rw [← dateOf_dayNumber hvalid]
        congr 1
        omega
  · rintro rfl
    induction n with
    | zero => exact .epoch
    | succ n ih => exact dateOf_succ n ▸ ih.tomorrow
    | pred n ih =>
        refine .yesterday (dateOf_spec _).1 ?_
        rw [← dateOf_succ, Int.sub_add_cancel]
        exact ih

/-- Later days are not in earlier years. -/
lemma year_mono {m n : Int} (h : m ≤ n) : (dateOf m).year ≤ (dateOf n).year := by
  obtain ⟨k, rfl⟩ := Int.le.dest h
  clear h
  induction k with
  | zero => simp
  | succ k ih =>
      refine ih.trans ?_
      rw [Int.natCast_succ, ← Int.add_assoc, dateOf_succ, Date.tomorrow]
      split_ifs
      · exact Int.le_refl _
      · exact Int.le_refl _
      · exact Int.le_add_one (Int.le_refl _)

end Meterboard.Calendar
