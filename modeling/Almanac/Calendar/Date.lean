namespace Almanac

/-- A date of the proleptic Gregorian calendar, in any year. -/
structure Date where
  year : Int
  month : Int
  day : Int
deriving DecidableEq, Ord

/-- Every fourth year has a leap day, of the full centuries only every fourth. -/
def isLeapYear (year : Int) : Bool :=
  year % 4 = 0 ∧ (year % 100 ≠ 0 ∨ year % 400 = 0)

def monthLength (year month : Int) : Int :=
  if month = 2 then if isLeapYear year then 29 else 28
  else if month = 4 ∨ month = 6 ∨ month = 9 ∨ month = 11 then 30
  else 31

/-- The months form a table that may also be read from its end: month 0 is December, month -1
November, down to -11. -/
def monthSlot? (month : Int) : Option Int :=
  if 1 ≤ month ∧ month ≤ 12 then some month
  else if -11 ≤ month ∧ month ≤ 0 then some (month + 12)
  else none

/-- The length of a month given by its slot. The leap day is only in the month numbered 2. -/
def monthLength? (year month : Int) : Option Int :=
  if month = 2 then some (monthLength year 2)
  else (monthSlot? month).map fun slot => if slot = 2 then 28 else monthLength year slot

namespace Date

instance : LT Date := ltOfOrd

def Valid (d : Date) : Prop :=
  1 ≤ d.month ∧ d.month ≤ 12 ∧ 1 ≤ d.day ∧ d.day ≤ monthLength d.year d.month

instance (d : Date) : Decidable d.Valid :=
  inferInstanceAs (Decidable (_ ∧ _ ∧ _ ∧ _))

/-- The days from 1 January 1970 to a date. Years are counted from 1 March, so that the leap day
ends the year it belongs to. -/
def epochDay (d : Date) : Int :=
  let year := if d.month ≤ 2 then d.year - 1 else d.year
  let monthFromMarch := (d.month + 9) % 12
  365 * year + year / 4 - year / 100 + year / 400
    + (153 * monthFromMarch + 2) / 5 + d.day - 719469

/-- The date a number of days after 1 January 1970. The calendar repeats after 400 years, which
have 146097 days. -/
def ofEpochDay (n : Int) : Date :=
  let dayOfEra := (n + 719468) % 146097
  let yearOfEra := (dayOfEra - dayOfEra / 1460 + dayOfEra / 36524 - dayOfEra / 146096) / 365
  let dayOfYear := dayOfEra - (365 * yearOfEra + yearOfEra / 4 - yearOfEra / 100)
  let monthFromMarch := (5 * dayOfYear + 2) / 153
  let month := if monthFromMarch < 10 then monthFromMarch + 3 else monthFromMarch - 9
  let year := (n + 719468) / 146097 * 400 + yearOfEra
  { year := if month ≤ 2 then year + 1 else year
    month := month
    day := dayOfYear - (153 * monthFromMarch + 2) / 5 + 1 }

/-- Steps the calendar by months. A day that the landing month does not have becomes its last. -/
def plusMonths (d : Date) (months : Int) : Date :=
  let count := d.year * 12 + d.month - 1 + months
  let last := monthLength (count / 12) (count % 12 + 1)
  { year := count / 12
    month := count % 12 + 1
    day := if d.day ≤ last then d.day else last }

def plusDays (d : Date) (days : Int) : Date :=
  ofEpochDay (d.epochDay + days)

def dayOfYear (d : Date) : Int :=
  d.epochDay - epochDay ⟨d.year, 1, 1⟩ + 1

def firstOfMonth (d : Date) : Date :=
  { d with day := 1 }

def firstOfNextMonth (d : Date) : Date :=
  d.firstOfMonth.plusMonths 1

def firstOfYear (d : Date) : Date :=
  ⟨d.year, 1, 1⟩

def firstOfNextYear (d : Date) : Date :=
  ⟨d.year + 1, 1, 1⟩

end Date

end Almanac
