import Almanac.Calendar.Weekday
import Almanac.Calendar.TimeUnit
import Almanac.Text.Numeral

namespace Almanac

structure TimeOfDay where
  hour : Int
  minute : Int
  second : Int
  millisecond : Int
deriving DecidableEq, Ord

/-- A date and a time of day, as a calendar and a clock show them in some zone. -/
structure DateTime where
  date : Date
  time : TimeOfDay
deriving DecidableEq, Ord

/-- The first field of a date and time that is out of its range, with the value it has. -/
inductive FieldFault
  | month (value : Int)
  | day (year month value : Int)
  | hour (value : Int)
  | minute (value : Int)
  | second (value : Int)
  | millisecond (value : Int)
deriving DecidableEq

namespace FieldFault

private def outside (field range : String) (value : Int) : String :=
  field ++ " must be in " ++ range ++ ", got " ++ String.ofList (decimal value)

def message : FieldFault → String
  | month n => outside "month" "1..12" n
  | day y m n =>
    outside "day" (String.ofList ("1..".toList ++ decimal (monthLength y m) ++ " for ".toList
      ++ decimal y ++ '-' :: padded 2 m.toNat)) n
  | hour n => outside "hour" "0..23" n
  | minute n => outside "minute" "0..59" n
  | second n => outside "second" "0..59" n
  | millisecond n => outside "millisecond" "0..999" n

end FieldFault

def Date.fault? (d : Date) : Option FieldFault :=
  if ¬(1 ≤ d.month ∧ d.month ≤ 12) then some (.month d.month)
  else if ¬(1 ≤ d.day ∧ d.day ≤ monthLength d.year d.month) then some (.day d.year d.month d.day)
  else none

theorem Date.fault?_eq_none_iff {d : Date} : d.fault? = none ↔ d.Valid := by
  unfold fault? Valid
  repeat' split
  all_goals simp only [reduceCtorEq, false_iff, true_iff]; omega

namespace TimeOfDay

instance : LT TimeOfDay := ltOfOrd

def midnight : TimeOfDay := ⟨0, 0, 0, 0⟩

def Valid (t : TimeOfDay) : Prop :=
  (0 ≤ t.hour ∧ t.hour ≤ 23) ∧ (0 ≤ t.minute ∧ t.minute ≤ 59) ∧ (0 ≤ t.second ∧ t.second ≤ 59)
    ∧ 0 ≤ t.millisecond ∧ t.millisecond ≤ 999

instance (t : TimeOfDay) : Decidable t.Valid :=
  inferInstanceAs (Decidable (_ ∧ _ ∧ _ ∧ _))

def fault? (t : TimeOfDay) : Option FieldFault :=
  if ¬(0 ≤ t.hour ∧ t.hour ≤ 23) then some (.hour t.hour)
  else if ¬(0 ≤ t.minute ∧ t.minute ≤ 59) then some (.minute t.minute)
  else if ¬(0 ≤ t.second ∧ t.second ≤ 59) then some (.second t.second)
  else if ¬(0 ≤ t.millisecond ∧ t.millisecond ≤ 999) then some (.millisecond t.millisecond)
  else none

theorem fault?_eq_none_iff {t : TimeOfDay} : t.fault? = none ↔ t.Valid := by
  unfold fault? Valid
  repeat' split
  all_goals simp only [reduceCtorEq, false_iff, true_iff]; omega

/-- The milliseconds since midnight. -/
def millis (t : TimeOfDay) : Int :=
  ((t.hour * 60 + t.minute) * 60 + t.second) * 1000 + t.millisecond

def ofMillis (n : Int) : TimeOfDay :=
  { hour := n / 3600000
    minute := n / 60000 % 60
    second := n / 1000 % 60
    millisecond := n % 1000 }

end TimeOfDay

namespace DateTime

instance : LT DateTime := ltOfOrd

def Valid (c : DateTime) : Prop :=
  c.date.Valid ∧ c.time.Valid

instance (c : DateTime) : Decidable c.Valid :=
  inferInstanceAs (Decidable (_ ∧ _))

def fault? (c : DateTime) : Option FieldFault :=
  match c.date.fault? with
  | some fault => some fault
  | none => c.time.fault?

theorem fault?_eq_none_iff {c : DateTime} : c.fault? = none ↔ c.Valid := by
  unfold fault? Valid
  split
  next fault h => simp [← Date.fault?_eq_none_iff, h]
  next h => simp [Date.fault?_eq_none_iff.mp h, TimeOfDay.fault?_eq_none_iff]

/-- A date and time whose fields are all in range, or the first field that is not. -/
def checked (c : DateTime) : Except FieldFault DateTime :=
  match c.fault? with
  | some fault => .error fault
  | none => .ok c

/-- The milliseconds from 1 January 1970 in UTC to the moment a clock `offset` seconds east of UTC
shows this date and time. -/
def epochMillis (c : DateTime) (offset : Int) : Int :=
  c.date.epochDay * millisPerDay + c.time.millis - offset * millisPerSecond

/-- What a clock `offset` seconds east of UTC shows at a moment. -/
def ofEpochMillis (millis offset : Int) : DateTime :=
  let wall := millis + offset * millisPerSecond
  ⟨.ofEpochDay (wall / millisPerDay), .ofMillis (wall % millisPerDay)⟩

def plusMonths (c : DateTime) (months : Int) : DateTime :=
  { c with date := c.date.plusMonths months }

def plusMillis (c : DateTime) (millis : Int) : DateTime :=
  ofEpochMillis (c.epochMillis 0 + millis) 0

/-- Moves the clock by units of a fixed length, and the calendar by months and years. -/
def plus (c : DateTime) (amount : Int) (unit : TimeUnit) : DateTime :=
  match unit.span with
  | .millis count => c.plusMillis (amount * count)
  | .months count => c.plusMonths (amount * count)

def minus (c : DateTime) (amount : Int) (unit : TimeUnit) : DateTime :=
  c.plus (-amount) unit

def atTime (c : DateTime) (time : TimeOfDay) : Except FieldFault DateTime :=
  checked { c with time := time }

def startOfDay (c : DateTime) : DateTime :=
  ⟨c.date, .midnight⟩

def firstOfMonth (c : DateTime) : DateTime :=
  { c with date := c.date.firstOfMonth }

def firstOfNextMonth (c : DateTime) : DateTime :=
  { c with date := c.date.firstOfNextMonth }

def firstOfYear (c : DateTime) : DateTime :=
  { c with date := c.date.firstOfYear }

def firstOfNextYear (c : DateTime) : DateTime :=
  { c with date := c.date.firstOfNextYear }

def previous (c : DateTime) (w : Weekday) : DateTime :=
  { c with date := c.date.previous w }

def next (c : DateTime) (w : Weekday) : DateTime :=
  { c with date := c.date.next w }

end DateTime

end Almanac
