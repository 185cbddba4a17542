import Almanac.Proofs.CheckedSteps
import Almanac.Proofs.WeekdaySteps

namespace Almanac

namespace Month

def firstDay (m : Month) : Date :=
  ⟨m.year, m.number, 1⟩

variable {m : Month}

theorem Valid.firstDay (h : m.Valid) : m.firstDay.Valid :=
  Date.valid_first h.1 h.2

/-- A month lasts until the first day of the next one, also over the turn of the year. -/
theorem Valid.daysUntil_next (h : m.Valid) : m.firstDay.daysUntil m.next.firstDay = m.length := by
  obtain ⟨year, number⟩ := m
  have first : 1 ≤ number := h.1
  have last : number ≤ 12 := h.2
  by_cases december : number = 12
  · subst number
    have turn : Date.epochDay ⟨year + 1, 1, 1⟩ - Date.epochDay ⟨year, 12, 1⟩ = 31 := by
      simp only [Date.epochDay]
      omega
    exact turn
  · have next : (Month.mk year number).next = ⟨year, number + 1⟩ := if_neg december
    have days := Date.epochDay_first_succ year first (by omega)
    rw [next]
    exact Int.sub_eq_iff_eq_add'.mpr days

end Month

namespace Date

variable {d : Date}

theorem Valid.firstOfNextMonth_eq (h : d.Valid) :
    d.firstOfNextMonth = d.calendarMonth.next.firstDay := by
  have first : d.firstOfMonth.Valid := h.calendarMonth.firstDay
  have month : d.firstOfNextMonth.calendarMonth = d.calendarMonth.next :=
    first.calendarMonth_plusMonths 1
  have day : d.firstOfNextMonth.day = min 1 (d.firstOfMonth.calendarMonth.after 1).length :=
    first.day_plusMonths 1
  have length := monthLength_range (d.firstOfMonth.calendarMonth.after 1).year
    (d.firstOfMonth.calendarMonth.after 1).number
  apply eq_of_calendarMonth month
  rw [day, Month.length]
  exact min_eq_left (by omega)

end Date

namespace DateTime

variable {c : DateTime} {d : Date}

theorem Valid.millis_lt_midnight_iff (hc : c.Valid) :
    c.epochMillis 0 < epochMillis ⟨d, .midnight⟩ 0 ↔ c.date.epochDay < d.epochDay := by
  have range := hc.2.millis_range
  have none : TimeOfDay.midnight.millis = 0 := rfl
  unfold epochMillis millisPerDay at *
  dsimp only
  omega

theorem Valid.midnight_le_iff (hc : c.Valid) (hd : d.Valid) :
    ⟨d, .midnight⟩ ≤ c ↔ d.epochDay ≤ c.date.epochDay := by
  have start : Valid ⟨d, .midnight⟩ := ⟨hd, TimeOfDay.valid_midnight⟩
  change (compare _ c).isLE ↔ _
  rw [← start.compare_epochMillis hc 0, Int.isLE_compare, ← Int.not_lt, hc.millis_lt_midnight_iff,
    Int.not_lt]

theorem Valid.lt_midnight_iff (hc : c.Valid) (hd : d.Valid) :
    c < ⟨d, .midnight⟩ ↔ c.date.epochDay < d.epochDay := by
  have start : Valid ⟨d, .midnight⟩ := ⟨hd, TimeOfDay.valid_midnight⟩
  change compare c _ = .lt ↔ _
  rw [← hc.compare_epochMillis start 0, Int.compare_eq_lt, hc.millis_lt_midnight_iff]

end DateTime

/-- The stretches of the calendar that have an anchor at their beginning and one at their end. -/
inductive Period
  | week | month | year
deriving DecidableEq

namespace Period

def beginning : Period → Anchor
  | week => .beginningWeek
  | month => .beginningMonth
  | year => .beginningYear

def ending : Period → Anchor
  | week => .endWeek
  | month => .endMonth
  | year => .endYear

/-- The days of the period around a date. Weeks begin and end on a Sunday, and on a Sunday the one
that ends is counted with the one that begins. -/
def days (p : Period) (d : Date) : Int :=
  match p with
  | week => if d.weekday = .sunday then 14 else 7
  | month => monthLength d.year d.month
  | year => if isLeapYear d.year then 366 else 365

/-- The dates between which a period around a date lies. -/
def bounds (p : Period) (d : Date) : Date × Date :=
  match p with
  | week => (d.previous .sunday, d.next .sunday)
  | month => (d.firstOfMonth, d.firstOfNextMonth)
  | year => (d.firstOfYear, d.firstOfNextYear)

variable {d : Date}

theorem bounds_spec (h : d.Valid) (p : Period) :
    (p.bounds d).1.Valid ∧ (p.bounds d).2.Valid ∧ 0 ≤ (p.bounds d).1.daysUntil d
      ∧ 1 ≤ d.daysUntil (p.bounds d).2 ∧ (p.bounds d).1.daysUntil (p.bounds d).2 = p.days d := by
  cases p with
  | week =>
    obtain ⟨valid, sunday, first, last⟩ := d.previous_spec .sunday
    obtain ⟨valid', sunday', first', last'⟩ := d.next_spec .sunday
    have weeks := Date.weekday_eq_weekday_iff.mp (sunday.trans sunday'.symm)
    have home : d.weekday = .sunday ↔ d.daysUntil (d.next .sunday) % 7 = 0 := by
      rw [← Date.weekday_eq_weekday_iff, sunday']
    refine ⟨valid, valid', Int.le_trans (by decide) first, first', ?_⟩
    simp only [bounds, days]
    unfold Date.daysUntil at *
    split
    next here =>
      have := home.mp here
      omega
    next other =>
      have := mt home.mpr other
      omega
  | month =>
    have length := h.calendarMonth.daysUntil_next
    have start := d.epochDay_eq_first
    have low := h.2.2.1
    have high := h.2.2.2
    simp only [bounds, days]
    rw [h.firstOfNextMonth_eq]
    refine ⟨h.calendarMonth.firstDay, h.calendarMonth.next.1.firstDay, ?_, ?_, length⟩
    · unfold Date.daysUntil
      omega
    · change d.firstOfMonth.daysUntil _ = monthLength d.year d.month at length
      unfold Date.daysUntil at *
      omega
  | year =>
    have length := Date.epochDay_newYear_succ d.year
    have begun := mt (h.epochDay_lt_newYear_iff d.year).mp (Int.lt_irrefl _)
    have ended := (h.epochDay_lt_newYear_iff (d.year + 1)).mpr (Int.lt_succ _)
    have january (year : Int) : Date.Valid ⟨year, 1, 1⟩ :=
      Date.valid_first (by decide) (by decide)
    refine ⟨january _, january _, ?_, ?_, ?_⟩
    · exact Int.sub_nonneg.mpr (Int.not_lt.mp begun)
    · exact Int.add_one_le_iff.mpr (Int.sub_pos.mpr ended)
    · exact Int.sub_eq_iff_eq_add'.mpr length

variable {present : DateTime} {zone : Zone}

theorem resolve_beginning (p : Period) (present : DateTime) (zone : Zone) :
    p.beginning.resolve present zone = ⟨(p.bounds present.date).1, .midnight⟩ := by
  cases p <;> rfl

theorem resolve_ending (p : Period) (present : DateTime) (zone : Zone) :
    p.ending.resolve present zone = ⟨(p.bounds present.date).2, .midnight⟩ := by
  cases p <;> rfl

/-- Neither anchor asks for the offset of the zone, so nothing is refused on the way. -/
theorem checkedResolve_eq (h : present.Valid) (p : Period) (zone : Zone) :
    p.beginning.checkedResolve present zone = .ok (p.beginning.resolve present zone)
      ∧ p.ending.checkedResolve present zone = .ok (p.ending.resolve present zone) := by
  have ordinary := Zone.nearUtc_utc.ordinary
  have beginning := p.beginning.checkedResolve_eq h ordinary
  have ending := p.ending.checkedResolve_eq h ordinary
  cases p <;> exact ⟨beginning, ending⟩

/-- The anchors of a period resolve to two midnights. The present is at the first of them or after
it, and before the second, and between them lie the days of the period. -/
structure Encloses (p : Period) (present : DateTime) (zone : Zone) : Prop where
  beginningMade : p.beginning.checkedResolve present zone = .ok (p.beginning.resolve present zone)
  endingMade : p.ending.checkedResolve present zone = .ok (p.ending.resolve present zone)
  beginningMidnight : (p.beginning.resolve present zone).time = .midnight
  endingMidnight : (p.ending.resolve present zone).time = .midnight
  begun : p.beginning.resolve present zone ≤ present
  notEnded : present < p.ending.resolve present zone
  apart : (p.beginning.resolve present zone).date.daysUntil (p.ending.resolve present zone).date
    = p.days present.date

theorem encloses (h : present.Valid) (p : Period) (zone : Zone) : p.Encloses present zone := by
  obtain ⟨beginningMade, endingMade⟩ := p.checkedResolve_eq h zone
  obtain ⟨valid, valid', begun, notEnded, apart⟩ := p.bounds_spec h.1
  refine ⟨beginningMade, endingMade, ?_, ?_, ?_, ?_, ?_⟩
  · rw [resolve_beginning]
  · rw [resolve_ending]
  · rw [resolve_beginning, h.midnight_le_iff valid]
    exact Int.sub_nonneg.mp begun
  · rw [resolve_ending, h.lt_midnight_iff valid']
    exact Int.sub_pos.mp notEnded
  · rw [resolve_beginning, resolve_ending]
    exact apart

end Period

/-- The anchors of the week, the month and the year lead to midnights around the present. A week is
counted from the Sunday before the present day to the one after it, a month and a year from their
own first day to that of the next one. -/
theorem DateTime.Valid.periods_enclose {present : DateTime} (h : present.Valid) (zone : Zone) :
    (∀ p : Period, p.Encloses present zone)
      ∧ (∀ a ∈ [Anchor.beginningWeek, .endWeek],
        (a.resolve present zone).date.weekday = .sunday)
      ∧ (1 ≤ (Anchor.beginningWeek.resolve present zone).date.daysUntil present.date
        ∧ (Anchor.beginningWeek.resolve present zone).date.daysUntil present.date ≤ 7)
      ∧ (1 ≤ present.date.daysUntil (Anchor.endWeek.resolve present zone).date
        ∧ present.date.daysUntil (Anchor.endWeek.resolve present zone).date ≤ 7)
      ∧ (Anchor.beginningMonth.resolve present zone).date = present.date.calendarMonth.firstDay
      ∧ (Anchor.endMonth.resolve present zone).date = present.date.calendarMonth.next.firstDay
      ∧ (Anchor.beginningYear.resolve present zone).date = ⟨present.date.year, 1, 1⟩
      ∧ (Anchor.endYear.resolve present zone).date = ⟨present.date.year + 1, 1, 1⟩ := by
  obtain ⟨-, sunday, before⟩ := present.date.previous_spec .sunday
  obtain ⟨-, sunday', after⟩ := present.date.next_spec .sunday
  refine ⟨fun p => p.encloses h zone, ?_, before, after, rfl, h.1.firstOfNextMonth_eq, rfl, rfl⟩
  intro a listed
  rcases List.mem_pair.mp listed with rfl | rfl
  · exact sunday
  · exact sunday'

theorem DateTime.periods_enclose_last_sunday :
    Valid ⟨⟨-28, 12, 31⟩, ⟨23, 59, 59, 999⟩⟩
      ∧ Period.week.Encloses ⟨⟨-28, 12, 31⟩, ⟨23, 59, 59, 999⟩⟩ .utc
      ∧ Period.week.days ⟨-28, 12, 31⟩ = 14
      ∧ Period.year.Encloses ⟨⟨-28, 12, 31⟩, ⟨23, 59, 59, 999⟩⟩ .utc
      ∧ Period.year.days ⟨-28, 12, 31⟩ = 366
      ∧ Date.weekday ⟨-28, 12, 24⟩ = .sunday
      ∧ Date.daysUntil ⟨-28, 12, 24⟩ ⟨-28, 12, 31⟩ ≤ 7
      ∧ (Anchor.endMonth.resolve ⟨⟨-28, 12, 31⟩, ⟨23, 59, 59, 999⟩⟩ .utc).date = ⟨-27, 1, 1⟩ := by
  have valid : Valid ⟨⟨-28, 12, 31⟩, ⟨23, 59, 59, 999⟩⟩ := by decide
  have sunday : Date.previous ⟨-28, 12, 31⟩ .sunday = ⟨-28, 12, 24⟩ := by decide
  obtain ⟨enclose, sundays, before, -, -, nextMonth, -⟩ := valid.periods_enclose .utc
  have begins : Date.weekday (Date.previous ⟨-28, 12, 31⟩ .sunday) = .sunday :=
    sundays .beginningWeek (.head _)
  change _ ∧ Date.daysUntil (Date.previous ⟨-28, 12, 31⟩ .sunday) _ ≤ 7 at before
  rw [sunday] at begins before
  exact ⟨valid, enclose .week, by decide, enclose .year, by decide, begins, before.2, nextMonth⟩

end Almanac
