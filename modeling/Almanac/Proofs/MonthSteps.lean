import Almanac.Proofs.Adjustments
import Almanac.Proofs.Chronology
import Mathlib.Logic.Function.Iterate
import Mathlib.Order.Bounds.Defs

namespace Almanac

/-- A month of the calendar: its year and its number in that year. -/
structure Month where
  year : Int
  number : Int
deriving DecidableEq

namespace Month

def Valid (m : Month) : Prop :=
  1 ≤ m.number ∧ m.number ≤ 12

def next (m : Month) : Month :=
  if m.number = 12 then ⟨m.year + 1, 1⟩ else ⟨m.year, m.number + 1⟩

def previous (m : Month) : Month :=
  if m.number = 1 then ⟨m.year - 1, 12⟩ else ⟨m.year, m.number - 1⟩

/-- The month that is reached by going to the next one a number of times, or to the previous one if
the number is negative. -/
def after (m : Month) (n : Int) : Month :=
  if 0 ≤ n then next^[n.toNat] m else previous^[(-n).toNat] m

/-- The months from the start of the year 0 to the start of this one. -/
def index (m : Month) : Int :=
  m.year * 12 + m.number - 1

def length (m : Month) : Int :=
  monthLength m.year m.number

variable {m m' : Month}

theorem Valid.eq_of_index (h : m.Valid) (h' : m'.Valid) (same : m.index = m'.index) : m = m' := by
  obtain ⟨year, number⟩ := m
  obtain ⟨year', number'⟩ := m'
  unfold Valid at h h'
  unfold index at same
  rw [Month.mk.injEq]
  dsimp only at *
  omega

theorem Valid.next (h : m.Valid) : m.next.Valid ∧ m.next.index = m.index + 1 := by
  unfold Valid index Month.next at *
  split
  · dsimp only
    omega
  · dsimp only
    omega

theorem Valid.previous (h : m.Valid) : m.previous.Valid ∧ m.previous.index = m.index - 1 := by
  unfold Valid index Month.previous at *
  split
  · dsimp only
    omega
  · dsimp only
    omega

theorem Valid.iterate {step : Month → Month} {distance : Int}
    (each : ∀ m : Month, m.Valid → (step m).Valid ∧ (step m).index = m.index + distance)
    (h : m.Valid) (n : Nat) :
    (step^[n] m).Valid ∧ (step^[n] m).index = m.index + n * distance := by
  induction n with
  | zero => exact ⟨h, by simp⟩
  | succ n ih =>
    obtain ⟨valid, index⟩ := ih
    obtain ⟨valid', index'⟩ := each _ valid
    rw [Function.iterate_succ_apply']
    refine ⟨valid', ?_⟩
    rw [index', index, Int.natCast_succ, Int.add_mul, Int.one_mul, Int.add_assoc]

theorem Valid.after (h : m.Valid) (n : Int) :
    (m.after n).Valid ∧ (m.after n).index = m.index + n := by
  unfold Month.after
  split
  next forward =>
    obtain ⟨valid, index⟩ := h.iterate (fun _ => Valid.next) n.toNat
    exact ⟨valid, by omega⟩
  next backward =>
    obtain ⟨valid, index⟩ := h.iterate (fun _ => Valid.previous) (-n).toNat
    exact ⟨valid, by omega⟩

end Month

instance : LE Date := leOfOrd

namespace Date

variable {d e : Date}

def calendarMonth (d : Date) : Month :=
  ⟨d.year, d.month⟩

theorem Valid.calendarMonth (h : d.Valid) : d.calendarMonth.Valid :=
  ⟨h.1, h.2.1⟩

/-- Dates are ordered by their months, and in a month by their days. -/
theorem Valid.compare_months (hd : d.Valid) (he : e.Valid) :
    compare d e
      = (compare d.calendarMonth.index e.calendarMonth.index).then (compare d.day e.day) := by
  obtain ⟨low, high, -⟩ := hd
  obtain ⟨low', high', -⟩ := he
  have months : compare d.calendarMonth.index e.calendarMonth.index
      = (compare d.year e.year).then (compare d.month e.month) := by
    unfold Month.index Date.calendarMonth
    dsimp only
    refine compare_eq_then (fun _ => by omega) (fun _ => by omega) fun same => ?_
    exact compare_eq_of_sub (by omega)
  rw [months, compare_eq, Ordering.then_assoc]

theorem Valid.lt_iff (hd : d.Valid) (he : e.Valid) :
    d < e ↔ d.calendarMonth.index < e.calendarMonth.index
      ∨ d.calendarMonth.index = e.calendarMonth.index ∧ d.day < e.day := by
  change compare d e = .lt ↔ _
  rw [hd.compare_months he, Ordering.then_eq_lt, Int.compare_eq_lt, Int.compare_eq_eq,
    Int.compare_eq_lt]

theorem Valid.le_iff (hd : d.Valid) (he : e.Valid) :
    d ≤ e ↔ d.calendarMonth.index < e.calendarMonth.index
      ∨ d.calendarMonth.index = e.calendarMonth.index ∧ d.day ≤ e.day := by
  change (compare d e).isLE ↔ _
  rw [hd.compare_months he, Ordering.isLE_then_iff_or, Int.compare_eq_lt, Int.compare_eq_eq,
    Int.isLE_compare]

theorem index_plusMonths (d : Date) (n : Int) :
    (d.plusMonths n).calendarMonth.index = d.calendarMonth.index + n := by
  unfold calendarMonth Month.index plusMonths
  dsimp only
  omega

theorem Valid.calendarMonth_plusMonths (h : d.Valid) (n : Int) :
    (d.plusMonths n).calendarMonth = d.calendarMonth.after n := by
  obtain ⟨valid, index⟩ := h.calendarMonth.after n
  exact (h.plusMonths n).calendarMonth.eq_of_index valid ((d.index_plusMonths n).trans index.symm)

/-- The day is kept where the landing month has it, and otherwise becomes its last. -/
theorem Valid.day_plusMonths (h : d.Valid) (n : Int) :
    (d.plusMonths n).day = min d.day (d.calendarMonth.after n).length := by
  rw [← h.calendarMonth_plusMonths]
  unfold Month.length Date.calendarMonth Date.plusMonths
  dsimp only
  split <;> omega

theorem Valid.isGreatest_plusMonths (h : d.Valid) (n : Int) :
    IsGreatest {e : Date | e.Valid ∧ e.calendarMonth = d.calendarMonth.after n ∧ e.day ≤ d.day}
      (d.plusMonths n) := by
  have valid := h.plusMonths n
  have month := h.calendarMonth_plusMonths n
  have day := h.day_plusMonths n
  refine ⟨⟨valid, month, by omega⟩, ?_⟩
  rintro e ⟨valid', month', notAfter⟩
  have last : e.day ≤ e.calendarMonth.length := valid'.2.2.2
  rw [month'] at last
  refine (valid'.le_iff valid).mpr (.inr ⟨?_, by omega⟩)
  rw [month', month]

theorem Valid.plusMonths_lt (h : d.Valid) {m n : Int} (less : m < n) :
    d.plusMonths m < d.plusMonths n := by
  refine ((h.plusMonths m).lt_iff (h.plusMonths n)).mpr (.inl ?_)
  rw [index_plusMonths, index_plusMonths]
  exact Int.add_lt_add_left less _

/-- Dates of one month land in one month, and the day of neither overtakes that of the other. -/
theorem Valid.plusMonths_le_plusMonths (hd : d.Valid) (he : e.Valid) (le : d ≤ e) (n : Int) :
    d.plusMonths n ≤ e.plusMonths n := by
  rw [(hd.plusMonths n).le_iff (he.plusMonths n), index_plusMonths, index_plusMonths]
  rcases (hd.le_iff he).mp le with earlier | ⟨same, day⟩
  · exact .inl (Int.add_lt_add_right earlier n)
  · -- The same last day bounds both.
    have month := hd.calendarMonth.eq_of_index he.calendarMonth same
    rw [hd.day_plusMonths, he.day_plusMonths, month]
    exact .inr ⟨rfl, by omega⟩

end Date

namespace DateTime

variable {c d : DateTime}

theorem lt_of_date (less : c.date < d.date) : c < d := by
  change compare c d = .lt
  rw [compare_eq, Ordering.then_eq_lt]
  exact .inl less

theorem plus_month (c : DateTime) (n : Int) : c.plus n .month = c.plusMonths n :=
  congrArg c.plusMonths (Int.mul_one n)

theorem date_plus_month (c : DateTime) (n : Int) : (c.plus n .month).date = c.date.plusMonths n :=
  congrArg date (c.plus_month n)

theorem plus_year (c : DateTime) (n : Int) : c.plus n .year = c.plus (12 * n) .month := by
  rw [plus_month, Int.mul_comm]
  rfl

/-- A step of months keeps the time of day and goes as many months on or back. Of the valid dates of
the landing month it comes to the latest whose day is not after the day it starts from. Years are
steps of twelve months. Longer steps come later, and of two dates the earlier one does not overtake
the other. -/
theorem Valid.plus_month_latest (h : c.Valid) (hd : d.Valid) (n : Int) :
    (∀ unit, c.checkedPlus n unit = .ok (c.plus n unit))
      ∧ (c.plus n .month).time = c.time
      ∧ (c.plus n .month).date.calendarMonth = c.date.calendarMonth.after n
      ∧ IsGreatest
        {e : Date | e.Valid ∧ e.calendarMonth = c.date.calendarMonth.after n ∧ e.day ≤ c.date.day}
        (c.plus n .month).date
      ∧ c.plus n .year = c.plus (12 * n) .month
      ∧ (∀ m, n < m → c.plus n .month < c.plus m .month)
      ∧ (c.date ≤ d.date → (c.plus n .month).date ≤ (d.plus n .month).date) := by
  refine ⟨h.checkedPlus_eq n, rfl, ?_, ?_, c.plus_year n, ?_, ?_⟩
  · rw [date_plus_month]
    exact h.1.calendarMonth_plusMonths n
  · rw [date_plus_month]
    exact h.1.isGreatest_plusMonths n
  · intro m less
    refine lt_of_date ?_
    rw [date_plus_month, date_plus_month]
    exact h.1.plusMonths_lt less
  · intro le
    rw [date_plus_month, date_plus_month]
    exact h.1.plusMonths_le_plusMonths hd.1 le n

theorem plus_month_latest_in_february :
    Valid ⟨⟨0, 1, 30⟩, ⟨23, 59, 59, 999⟩⟩
      ∧ Valid ⟨⟨0, 1, 31⟩, .midnight⟩
      ∧ checkedPlus ⟨⟨0, 1, 30⟩, ⟨23, 59, 59, 999⟩⟩ (-11) .month
        = .ok ⟨⟨-1, 2, 28⟩, ⟨23, 59, 59, 999⟩⟩
      ∧ IsGreatest {e : Date | e.Valid ∧ e.calendarMonth = ⟨-1, 2⟩ ∧ e.day ≤ 30} ⟨-1, 2, 28⟩
      ∧ plus ⟨⟨0, 1, 30⟩, ⟨23, 59, 59, 999⟩⟩ (-11) .year = ⟨⟨-11, 1, 30⟩, ⟨23, 59, 59, 999⟩⟩
      ∧ (-11 : Int) < 1
      ∧ (⟨⟨-1, 2, 28⟩, ⟨23, 59, 59, 999⟩⟩ : DateTime) < ⟨⟨0, 2, 29⟩, ⟨23, 59, 59, 999⟩⟩
      ∧ (⟨0, 1, 30⟩ : Date) ≤ ⟨0, 1, 31⟩
      ∧ (⟨-1, 2, 28⟩ : Date) ≤ (plus ⟨⟨0, 1, 31⟩, .midnight⟩ (-11) .month).date := by
  have valid : Valid ⟨⟨0, 1, 30⟩, ⟨23, 59, 59, 999⟩⟩ := by decide
  have later : Valid ⟨⟨0, 1, 31⟩, .midnight⟩ := by decide
  have landed : plus ⟨⟨0, 1, 30⟩, ⟨23, 59, 59, 999⟩⟩ (-11) .month
      = ⟨⟨-1, 2, 28⟩, ⟨23, 59, 59, 999⟩⟩ := by decide
  have next : plus ⟨⟨0, 1, 30⟩, ⟨23, 59, 59, 999⟩⟩ 1 .month
      = ⟨⟨0, 2, 29⟩, ⟨23, 59, 59, 999⟩⟩ := by decide
  have month : Month.after ⟨0, 1⟩ (-11) = ⟨-1, 2⟩ := by decide
  have le : (⟨0, 1, 30⟩ : Date) ≤ ⟨0, 1, 31⟩ := rfl
  obtain ⟨made, -, -, latest, years, less, notLater⟩ := valid.plus_month_latest later (-11)
  rw [landed] at latest less notLater
  have longer := less 1 (by decide)
  rw [next] at longer
  change IsGreatest {e : Date | e.Valid ∧ e.calendarMonth = Month.after ⟨0, 1⟩ (-11) ∧ e.day ≤ 30}
    ⟨-1, 2, 28⟩ at latest
  rw [month] at latest
  exact ⟨valid, later, (made .month).trans (congrArg Except.ok landed), latest,
    years.trans (by decide), by decide, longer, le, notLater le⟩

end DateTime

end Almanac
