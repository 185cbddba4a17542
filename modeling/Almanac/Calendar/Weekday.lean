import Almanac.Calendar.Date

namespace Almanac

inductive Weekday
  | monday | tuesday | wednesday | thursday | friday | saturday | sunday
deriving DecidableEq

namespace Weekday

def all : List Weekday :=
  [monday, tuesday, wednesday, thursday, friday, saturday, sunday]

def name : Weekday → String
  | monday => "MONDAY"
  | tuesday => "TUESDAY"
  | wednesday => "WEDNESDAY"
  | thursday => "THURSDAY"
  | friday => "FRIDAY"
  | saturday => "SATURDAY"
  | sunday => "SUNDAY"

def ofName? (name : String) : Option Weekday :=
  all.find? (·.name = name)

/-- Days are numbered from Monday, which is 1. -/
def number : Weekday → Int
  | monday => 1
  | tuesday => 2
  | wednesday => 3
  | thursday => 4
  | friday => 5
  | saturday => 6
  | sunday => 7

/-- The weekday a number of days after a Monday. -/
def afterMonday (days : Int) : Weekday :=
  if days % 7 = 0 then monday
  else if days % 7 = 1 then tuesday
  else if days % 7 = 2 then wednesday
  else if days % 7 = 3 then thursday
  else if days % 7 = 4 then friday
  else if days % 7 = 5 then saturday
  else sunday

theorem ofName?_name (w : Weekday) : ofName? w.name = some w := by
  cases w <;> rfl

theorem number_afterMonday (days : Int) : (afterMonday days).number = days % 7 + 1 := by
  unfold afterMonday
  repeat' split
  all_goals simp only [number]; omega

end Weekday

namespace Date

/-- 1 January 1970 was a Thursday. -/
def weekday (d : Date) : Weekday :=
  Weekday.afterMonday (d.epochDay + 3)

/-- The week of a date, counted in the year that holds the week's Thursday. -/
def isoWeek (d : Date) : Int × Int :=
  let thursday := d.epochDay + 4 - d.weekday.number
  let year := (ofEpochDay thursday).year
  (year, (thursday - epochDay ⟨year, 1, 1⟩) / 7 + 1)

/-- The closest date before this one that falls on a weekday. -/
def previous (d : Date) (w : Weekday) : Date :=
  let days := (d.weekday.number - w.number) % 7
  d.plusDays (-(if days = 0 then 7 else days))

/-- The closest date after this one that falls on a weekday. -/
def next (d : Date) (w : Weekday) : Date :=
  let days := (w.number - d.weekday.number) % 7
  d.plusDays (if days = 0 then 7 else days)

end Date

end Almanac
