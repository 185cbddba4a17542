import Almanac.Proofs.MonthSteps

namespace Almanac

namespace Month

variable {m : Month}

theorem Valid.after_after (h : m.Valid) (a b : Int) : (m.after a).after b = m.after (a + b) := by
  obtain ⟨valid, index⟩ := h.after a
  obtain ⟨valid', index'⟩ := valid.after b
  obtain ⟨validSum, indexSum⟩ := h.after (a + b)
  exact valid'.eq_of_index validSum (by omega)

theorem Valid.after_zero (h : m.Valid) : m.after 0 = m := by
  obtain ⟨valid, index⟩ := h.after 0
  exact valid.eq_of_index h (by omega)

end Month

namespace Date

variable {d e : Date}

theorem eq_of_calendarMonth (month : d.calendarMonth = e.calendarMonth) (day : d.day = e.day) :
    d = e := by
  obtain ⟨year, number⟩ := Month.mk.inj month
  cases d
  cases e
  rw [Date.mk.injEq]
  exact ⟨year, number, day⟩

theorem Valid.calendarMonth_plusMonths_plusMonths (h : d.Valid) (a b : Int) :
    ((d.plusMonths a).plusMonths b).calendarMonth = (d.plusMonths (a + b)).calendarMonth := by
  rw [(h.plusMonths a).calendarMonth_plusMonths, h.calendarMonth_plusMonths,
    h.calendarMonth_plusMonths, h.calendarMonth.after_after]

/-- A day that the month in between does not have is lost on the way. -/
theorem Valid.day_plusMonths_plusMonths (h : d.Valid) (a b : Int) :
    ((d.plusMonths a).plusMonths b).day
      = min (d.plusMonths (a + b)).day (d.calendarMonth.after a).length := by
  rw [(h.plusMonths a).day_plusMonths, h.calendarMonth_plusMonths, h.calendarMonth.after_after,
    h.day_plusMonths, h.day_plusMonths]
  omega

theorem Valid.plusMonths_add (h : d.Valid) {a : Int} (b : Int)
    (kept : d.day ≤ (d.calendarMonth.after a).length) :
    (d.plusMonths a).plusMonths b = d.plusMonths (a + b) := by
  refine eq_of_calendarMonth (h.calendarMonth_plusMonths_plusMonths a b) ?_
  have once := h.day_plusMonths (a + b)
  rw [h.day_plusMonths_plusMonths]
  omega

/-- The way back loses no further day, because the month it leads to had the first one. -/
theorem Valid.day_plusMonths_back (h : d.Valid) (n : Int) :
    (d.plusMonths n).day ≤ ((d.plusMonths n).calendarMonth.after (-n)).length := by
  have last : d.day ≤ d.calendarMonth.length := h.2.2.2
  rw [h.day_plusMonths, h.calendarMonth_plusMonths, h.calendarMonth.after_after, Int.add_right_neg,
    h.calendarMonth.after_zero]
  omega

theorem Valid.plusMonths_back_le (h : d.Valid) (n : Int) :
    ((d.plusMonths n).plusMonths (-n)).calendarMonth = d.calendarMonth
      ∧ (d.plusMonths n).plusMonths (-n) ≤ d := by
  have there := h.plusMonths n
  have month := h.calendarMonth_plusMonths_plusMonths n (-n)
  have day := h.day_plusMonths_plusMonths n (-n)
  rw [Int.add_right_neg, h.plusMonths_zero] at month day
  refine ⟨month, ((there.plusMonths (-n)).le_iff h).mpr (.inr ⟨?_, by omega⟩)⟩
  rw [month]

theorem Valid.plusMonths_again (h : d.Valid) (n : Int) :
    ((d.plusMonths n).plusMonths (-n)).plusMonths n = d.plusMonths n := by
  have there := h.plusMonths n
  -- Back and on again is one step of no months from where the first one led.
  rw [there.plusMonths_add n (h.day_plusMonths_back n), Int.add_left_neg, there.plusMonths_zero]

end Date

theorem TimeOfDay.compare_self (t : TimeOfDay) : compare t t = .eq := by
  simp only [compare_eq, Std.ReflOrd.compare_self, Ordering.eq_then]

/-- The units of the calendar. -/
inductive CalendarUnit
  | month | year
deriving DecidableEq

namespace CalendarUnit

def unit : CalendarUnit → TimeUnit
  | month => .month
  | year => .year

def months : CalendarUnit → Int
  | month => 1
  | year => 12

theorem span_unit (u : CalendarUnit) : u.unit.span = .months u.months := by
  cases u <;> rfl

end CalendarUnit

instance : LE DateTime := leOfOrd

namespace DateTime

/-- Two dates and times differ at most in the day of the month. -/
def SameButDay (c d : DateTime) : Prop :=
  c.date.calendarMonth = d.date.calendarMonth ∧ c.time = d.time

variable {c d : DateTime}

theorem le_of_date (le : c.date ≤ d.date) (time : c.time = d.time) : c ≤ d := by
  change (compare c d).isLE
  rw [compare_eq, time, TimeOfDay.compare_self, Ordering.then_eq]
  exact le

theorem plus_calendar (c : DateTime) (n : Int) (u : CalendarUnit) :
    c.plus n u.unit = c.plusMonths (n * u.months) := by
  unfold plus
  rw [u.span_unit]

theorem minus_calendar (c : DateTime) (n : Int) (u : CalendarUnit) :
    c.minus n u.unit = c.plusMonths (-(n * u.months)) := by
  unfold minus
  rw [plus_calendar, Int.neg_mul]

/-- Two steps of the calendar lead to the month of both at once, and to the same day of it or an
earlier one. It is the same if the month on the way has the day. A step that is taken back does not
lead past its start and keeps its month, and taken again it leads where it led first. -/
theorem Valid.calendar_steps_compose (h : c.Valid) (a b : Int) (u v : CalendarUnit) :
    (c.checkedPlus a u.unit).bind (·.checkedPlus b v.unit)
        = .ok ((c.plus a u.unit).plus b v.unit)
      ∧ ((c.plus a u.unit).plus b v.unit).SameButDay (c.plus (a * u.months + b * v.months) .month)
      ∧ ((c.plus a u.unit).plus b v.unit).date.day
        ≤ (c.plus (a * u.months + b * v.months) .month).date.day
      ∧ (c.date.day ≤ 28
          ∨ c.date.day ≤ monthLength (c.plus a u.unit).date.year (c.plus a u.unit).date.month →
        (c.plus a u.unit).plus b v.unit = c.plus (a * u.months + b * v.months) .month)
      ∧ ((c.plus a u.unit).minus a u.unit).SameButDay c
      ∧ (c.plus a u.unit).minus a u.unit ≤ c
      ∧ ((c.plus a u.unit).minus a u.unit).plus a u.unit = c.plus a u.unit := by
  have made : (c.checkedPlus a u.unit).bind (·.checkedPlus b v.unit)
      = .ok ((c.plus a u.unit).plus b v.unit) := by
    rw [h.checkedPlus_eq]
    exact (h.plus a u.unit).checkedPlus_eq b v.unit
  refine ⟨made, ?_⟩
  simp only [plus_calendar, minus_calendar, plus_month]
  obtain ⟨back, notLater⟩ := h.1.plusMonths_back_le (a * u.months)
  have day := h.1.day_plusMonths_plusMonths (a * u.months) (b * v.months)
  refine ⟨⟨h.1.calendarMonth_plusMonths_plusMonths _ _, rfl⟩, day.le.trans (min_le_left _ _), ?_,
    ⟨back, rfl⟩, le_of_date notLater rfl, congrArg (DateTime.mk · c.time) (h.1.plusMonths_again _)⟩
  intro kept
  refine congrArg (DateTime.mk · c.time) (h.1.plusMonths_add _ ?_)
  rw [← h.1.calendarMonth_plusMonths]
  have length := monthLength_range (c.date.plusMonths (a * u.months)).year
    (c.date.plusMonths (a * u.months)).month
  exact kept.elim (fun early => early.trans length.1) id

theorem calendar_steps_compose_over_february :
    Valid ⟨⟨2024, 1, 31⟩, .midnight⟩
      ∧ (checkedPlus ⟨⟨2024, 1, 31⟩, .midnight⟩ 1 .month).bind (·.checkedPlus 1 .month)
        = .ok ⟨⟨2024, 3, 29⟩, .midnight⟩
      ∧ SameButDay ⟨⟨2024, 3, 29⟩, .midnight⟩ ⟨⟨2024, 3, 31⟩, .midnight⟩
      ∧ (29 : Int) ≤ 31
      ∧ (⟨⟨2024, 1, 29⟩, .midnight⟩ : DateTime) ≤ ⟨⟨2024, 1, 31⟩, .midnight⟩
      ∧ plus ⟨⟨2024, 1, 29⟩, .midnight⟩ 1 .month = ⟨⟨2024, 2, 29⟩, .midnight⟩
      ∧ 31 ≤ monthLength 2024 3
      ∧ plus ⟨⟨2024, 3, 31⟩, .midnight⟩ (-1) .month = ⟨⟨2024, 2, 29⟩, .midnight⟩ := by
  have valid : Valid ⟨⟨2024, 1, 31⟩, .midnight⟩ := by decide
  have february : plus ⟨⟨2024, 1, 31⟩, .midnight⟩ 1 .month = ⟨⟨2024, 2, 29⟩, .midnight⟩ := by decide
  have march : plus ⟨⟨2024, 1, 31⟩, .midnight⟩ 2 .month = ⟨⟨2024, 3, 31⟩, .midnight⟩ := by decide
  have onward : plus ⟨⟨2024, 2, 29⟩, .midnight⟩ 1 .month = ⟨⟨2024, 3, 29⟩, .midnight⟩ := by decide
  have back : minus ⟨⟨2024, 2, 29⟩, .midnight⟩ 1 .month = ⟨⟨2024, 1, 29⟩, .midnight⟩ := by decide
  have long : 31 ≤ monthLength 2024 3 := by decide
  obtain ⟨made, month, day, -, -, notLater, again⟩ := valid.calendar_steps_compose 1 1 .month .month
  obtain ⟨-, -, -, kept, -⟩ := valid.calendar_steps_compose 2 (-1) .month .month
  change SameButDay _ (plus ⟨⟨2024, 1, 31⟩, .midnight⟩ 2 .month) at month
  change _ ≤ (plus ⟨⟨2024, 1, 31⟩, .midnight⟩ 2 .month).date.day at day
  change _ ∨ 31 ≤ monthLength _ _ → _ = plus ⟨⟨2024, 1, 31⟩, .midnight⟩ 1 .month at kept
  simp only [CalendarUnit.unit, february, march, onward, back] at made month day notLater again kept
  exact ⟨valid, made, month, day, notLater, again, long, kept (.inr long)⟩

end DateTime

end Almanac
