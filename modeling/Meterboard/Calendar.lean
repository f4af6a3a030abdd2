import Meterboard.Text

/-!
# Calendar

Times are milliseconds since the start of 1970 in universal time.  They are shown in the proleptic
Gregorian calendar, as the clocks of a time zone show them.

* `Calendar.Date`, `Calendar.dateOf` — a day number as year, month and day.
* `Calendar.Moment`, `Calendar.ofMillis` — a time as a date and a time of day.
* `Calendar.Zone`, `Zone.moment?` — the moment that local clocks show, within the years that can be
  shown.
* `Moment.clock`, `Moment.dayAndTime`, `Moment.full` — the three ways to write it.
-/

namespace Meterboard.Calendar

/-- A day of the Gregorian calendar. -/
structure Date where
  year : Int
  month : Nat
  day : Nat
deriving DecidableEq, Repr

/-- Days from the first of March of the year 0 to the start of 1970. -/
def epochShift : Int := 719468

/-- Days in four hundred years. -/
def eraDays : Int := 146097

/-- The date of a day number, days since the start of 1970.  Years are counted from March here, so
that a leap day comes last: of the days of a 400-year era the year is found first, then the month by
the rule that five months from March on have 153 days. -/
def dateOf (dayNumber : Int) : Date :=
  let z := dayNumber + epochShift
  let era := Int.fdiv z eraDays
  let dayOfEra := (Int.fmod z eraDays).toNat
  let yearOfEra := (dayOfEra - dayOfEra / 1460 + dayOfEra / 36524 - dayOfEra / 146096) / 365
  let dayOfYear := dayOfEra - (365 * yearOfEra + yearOfEra / 4 - yearOfEra / 100)
  let monthFromMarch := (5 * dayOfYear + 2) / 153
  let day := dayOfYear - (153 * monthFromMarch + 2) / 5 + 1
  let month := if monthFromMarch < 10 then monthFromMarch + 3 else monthFromMarch - 9
  let year := era * 400 + yearOfEra
  ⟨if month ≤ 2 then year + 1 else year, month, day⟩

/-- The day number of a date. -/
def Date.dayNumber (d : Date) : Int :=
  let year := if d.month ≤ 2 then d.year - 1 else d.year
  let monthFromMarch := if d.month ≤ 2 then d.month + 9 else d.month - 3
  let era := Int.fdiv year 400
  let yearOfEra := Int.fmod year 400
  let dayOfYear : Int := ((153 * monthFromMarch + 2) / 5 + d.day - 1 : Nat)
  era * eraDays + (yearOfEra * 365 + yearOfEra / 4 - yearOfEra / 100 + dayOfYear) - epochShift

/-- A date with a time of day. -/
structure Moment where
  date : Date
  hour : Nat
  minute : Nat
  second : Nat
deriving DecidableEq, Repr

/-- Milliseconds in a day. -/
def dayMillis : Int := 86400000

/-- The moment of a time in milliseconds, whole seconds only. -/
def ofMillis (ms : Int) : Moment :=
  let second := (Int.fmod ms dayMillis).toNat / 1000
  ⟨dateOf (Int.fdiv ms dayMillis), second / 3600, second / 60 % 60, second % 60⟩

/-- The first and the last year that can be shown. -/
def years : Int × Int := (-262143, 262142)

namespace Moment

/-- The year of the moment can be shown. -/
def Shown (m : Moment) : Prop := years.1 ≤ m.date.year ∧ m.date.year ≤ years.2

instance (m : Moment) : Decidable m.Shown :=
  inferInstanceAs (Decidable (years.1 ≤ m.date.year ∧ m.date.year ≤ years.2))

end Moment

/-! ## Time zones -/

/-- A time zone. -/
structure Zone where
  /-- By how many seconds local clocks are ahead of universal time, at a time in milliseconds. -/
  ahead : Int → Int

namespace Zone

/-- Clocks that show universal time. -/
def universal : Zone := ⟨fun _ => 0⟩

/-- What local clocks show at a time: the time at which universal clocks show the same. -/
def clock (z : Zone) (ms : Int) : Int := ms + 1000 * z.ahead ms

/-- The moment that local clocks show.  Whether it can be shown is decided by the year in universal
time, so that local clocks may show one year more at either end. -/
def moment? (z : Zone) (ms : Int) : Option Moment :=
  if (ofMillis ms).Shown then some (ofMillis (z.clock ms)) else none

end Zone

/-! ## Writing -/

/-- A year in four digits; one that needs more or is negative shows its sign. -/
def yearText (year : Int) : List Char :=
  if year < 0 then '-' :: Text.padded 4 year.natAbs
  else if 9999 < year then '+' :: Text.padded 4 year.natAbs
  else Text.padded 4 year.natAbs

namespace Moment

/-- Two digits. -/
def pair (n : Nat) : List Char := Text.padded 2 n

/-- Hours, minutes and seconds. -/
def clockChars (m : Moment) : List Char :=
  pair m.hour ++ ':' :: pair m.minute ++ ':' :: pair m.second

/-- Hours, minutes and seconds. -/
def clock (m : Moment) : String := String.ofList m.clockChars

/-- Month, day, hours and minutes. -/
def dayAndTime (m : Moment) : String :=
  String.ofList (pair m.date.month ++ '-' :: pair m.date.day ++ ' ' :: pair m.hour
    ++ ':' :: pair m.minute)

/-- The whole date and the clock time. -/
def full (m : Moment) : String :=
  String.ofList (yearText m.date.year ++ '-' :: pair m.date.month ++ '-' :: pair m.date.day
    ++ ' ' :: m.clockChars)

end Moment

end Meterboard.Calendar
