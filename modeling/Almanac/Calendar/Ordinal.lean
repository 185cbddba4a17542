import Almanac.Calendar.Date

namespace Almanac

namespace Date

/-- The days of the years from 1 up to a year. -/
def daysBeforeYear (year : Int) : Int :=
  let past := year - 1
  365 * past + past / 4 - past / 100 + past / 400

/-- The days of a year before one of its months. -/
def daysBeforeMonth (year month : Int) : Int :=
  let days : List Int := [0, 31, 59, 90, 120, 151, 181, 212, 243, 273, 304, 334]
  let leapDay := if 2 < month ∧ isLeapYear year then 1 else 0
  days[(month - 1).toNat]?.getD 0 + leapDay

/-- The number of a date among those from 1 January of the year 1 on, which is the first. -/
def ordinal (d : Date) : Int :=
  daysBeforeYear d.year + daysBeforeMonth d.year d.month + d.day

/-- The date that has so many days of its year before it. As if each month had 32 days, the month
is found or the one after it. -/
def ofYearDay (year day : Int) : Date :=
  let guess := (day + 50) / 32
  let month := if day < daysBeforeMonth year guess then guess - 1 else guess
  ⟨year, month, day - daysBeforeMonth year month + 1⟩

/-- The date of a number. The day that comes on top of four centuries, or of four years, is the last
one of the year before. -/
def ofOrdinal (n : Int) : Date :=
  let dayOfEra := (n - 1) % 146097
  let century := dayOfEra / 36524
  let dayOfCentury := dayOfEra % 36524
  let cycle := dayOfCentury / 1461
  let dayOfCycle := dayOfCentury % 1461
  let yearOfCycle := dayOfCycle / 365
  let year := (n - 1) / 146097 * 400 + 100 * century + 4 * cycle + yearOfCycle + 1
  if yearOfCycle = 4 ∨ century = 4 then ⟨year - 1, 12, 31⟩
  else ofYearDay year (dayOfCycle % 365)

end Date

end Almanac
