import Almanac.Calendar.Ordinal
import Almanac.Proofs.CountedDays

namespace Almanac

namespace Date

/-- The months begin where they would begin if each had 32 days, or up to 32 days before. -/
theorem daysBeforeMonth_near (year : Int) {month : Int} (h0 : 1 ≤ month) (h1 : month ≤ 12) :
    32 * month - 50 ≤ daysBeforeMonth year month ∧ daysBeforeMonth year month ≤ 32 * month - 18 := by
  obtain rfl | rfl | rfl | rfl | rfl | rfl | rfl | rfl | rfl | rfl | rfl | rfl := month_cases h0 h1
  all_goals by_cases long : isLeapYear year = true <;> simp [daysBeforeMonth, long]

theorem daysBeforeMonth_first (year : Int) : daysBeforeMonth year 1 = 0 := by
  simp [daysBeforeMonth]

/-- The month after one begins where that one ends, and the year ends with December. -/
theorem daysBeforeMonth_add_monthLength (year : Int) {month : Int} (h0 : 1 ≤ month)
    (h1 : month ≤ 12) :
    daysBeforeMonth year month + monthLength year month
      = if month ≤ 11 then daysBeforeMonth year (month + 1) else yearLength year := by
  obtain rfl | rfl | rfl | rfl | rfl | rfl | rfl | rfl | rfl | rfl | rfl | rfl := month_cases h0 h1
  all_goals
    by_cases long : isLeapYear year = true <;>
      simp [daysBeforeMonth, monthLength, yearLength, long]

theorem daysBeforeMonth_eq (year : Int) {month : Int} (h0 : 1 ≤ month) (h1 : month ≤ 12) :
    daysBeforeMonth year month = daysToMonth year month := by
  have next (m : Int) (above : 1 ≤ m) (below : m < month) :
      daysBeforeMonth year (m + 1) = daysBeforeMonth year m + monthLength year m := by
    rw [daysBeforeMonth_add_monthLength year above (by omega), if_pos (by omega)]
  have count := start_eq_add_daysFrom (daysBeforeMonth year) (monthLength year) next
    (n := (month - 1).toNat) (by omega)
  rw [count, daysBeforeMonth_first, Int.zero_add, daysToMonth]

theorem daysBeforeYear_eq (year : Int) :
    daysBeforeYear year = epochDay ⟨year, 1, 1⟩ + 719162 := by
  rw [epochDay_newYear]
  simp only [daysBeforeYear, leapDaysUntil]
  omega

/-- The number of 1 January 1970 is 719163. -/
theorem Valid.ordinal_eq {d : Date} (h : d.Valid) : d.ordinal = d.epochDay + 719163 := by
  obtain ⟨first, last, -, -⟩ := h
  have day := d.epochDay_eq_first
  have month : d.firstOfMonth.epochDay = _ + daysToMonth d.year d.month :=
    epochDay_first_eq_add d.year (Int.le_refl 1) first last
  rw [ordinal, daysBeforeYear_eq, daysBeforeMonth_eq d.year first last]
  omega

/-- The month of a day begins no later than the day, and ends after it. -/
theorem valid_ofYearDay {year day : Int} (h0 : 0 ≤ day) (h1 : day < yearLength year) :
    (ofYearDay year day).Valid := by
  have days : yearLength year = 366 ∨ yearLength year = 365 := by
    unfold yearLength
    split <;> omega
  have first := daysBeforeMonth_first year
  have inMonth {month : Int} (low : 1 ≤ month) (high : month ≤ 12)
      (begins : daysBeforeMonth year month ≤ day)
      (ends : day < daysBeforeMonth year month + monthLength year month) :
      Valid ⟨year, month, day - daysBeforeMonth year month + 1⟩ :=
    ⟨low, high, by dsimp only; omega, by dsimp only; omega⟩
  obtain ⟨guess, hg⟩ : ∃ guess, (day + 50) / 32 = guess := ⟨_, rfl⟩
  simp only [ofYearDay, hg]
  by_cases late : day < daysBeforeMonth year guess
  · have second : 2 ≤ guess := by
      by_contra early
      rw [show guess = 1 by omega] at late
      omega
    have before := daysBeforeMonth_near year (show 1 ≤ guess - 1 by omega) (by omega)
    have next := daysBeforeMonth_add_monthLength year (show 1 ≤ guess - 1 by omega) (by omega)
    rw [if_pos (by omega), show guess - 1 + 1 = guess by omega] at next
    rw [if_pos late]
    exact inMonth (by omega) (by omega) (by omega) (by omega)
  · have next := daysBeforeMonth_add_monthLength year (show 1 ≤ guess by omega) (by omega)
    rw [if_neg late]
    refine inMonth (by omega) (by omega) (by omega) ?_
    rw [next]
    split
    · have after := daysBeforeMonth_near year (show 1 ≤ guess + 1 by omega) (by omega)
      omega
    · exact h1

theorem ordinal_ofYearDay (year day : Int) :
    (ofYearDay year day).ordinal = daysBeforeYear year + day + 1 := by
  simp only [ordinal, ofYearDay]
  omega

theorem ofYearDay_last {year : Int} (leap : isLeapYear year = true) :
    ofYearDay year 365 = ⟨year, 12, 31⟩ := by
  simp [ofYearDay, daysBeforeMonth, leap]

/-- Counted from 1 January of the year 1, days fall on the same places of four centuries as from
1 March of the year 0. -/
theorem ofOrdinal_eq {n era : Int} {e : EraDay} (h : n - 1 = 146097 * era + e.index) :
    ofOrdinal n = ofYearDay (400 * era + e.yearOfEra + 1) e.day := by
  have hc := e.century_range
  have hq := e.cycle_range
  have hr := e.year_range
  have h0 := e.day_nonneg
  have h1 := e.day_le
  have range := e.index_range
  have leap := e.isLeapYear_of_day era
  have eras : (n - 1) / 146097 = era := by omega
  have dayOfEra : (n - 1) % 146097 = e.index := by omega
  obtain ⟨i, hi⟩ : ∃ i, e.index = i := ⟨_, rfl⟩
  simp only [ofOrdinal, eras, dayOfEra, hi]
  unfold EraDay.index at hi
  unfold EraDay.yearOfEra at leap ⊢
  by_cases last : e.day = 365
  · rw [last, ofYearDay_last (leap last)]
    -- The day is left over from four years, or from all four centuries.
    by_cases early : e.cycle < 24
    · have century : i / 36524 = e.century := by omega
      have rest : i % 36524 = 1461 * e.cycle + 1460 := by omega
      have cycle : i % 36524 / 1461 = e.cycle := by omega
      have year : i % 36524 % 1461 / 365 = 4 := by omega
      rw [if_pos (.inl year), century, cycle, year, Date.mk.injEq]
      omega
    · obtain rfl : i = 146096 := by omega
      rw [if_pos (.inr rfl), Date.mk.injEq]
      omega
  · have century : i / 36524 = e.century := by omega
    have rest : i % 36524 = 1461 * e.cycle + 365 * e.year + e.day := by omega
    have cycle : i % 36524 / 1461 = e.cycle := by omega
    have year : i % 36524 % 1461 / 365 = e.year := by omega
    have day : i % 36524 % 1461 % 365 = e.day := by omega
    rw [if_neg (by omega), century, cycle, year, day]
    congr 1
    omega

/-- The dates that are found by their numbers are those that are found by their distance from
1970. -/
theorem ofOrdinal_eq_ofEpochDay (n : Int) : ofOrdinal n = ofEpochDay (n - 719163) := by
  obtain ⟨e, he⟩ := EraDay.exists_index (i := (n - 1) % 146097) (by omega) (by omega)
  obtain ⟨era, hera⟩ : ∃ era, (n - 1) / 146097 = era := ⟨_, rfl⟩
  have index : n - 1 = 146097 * era + e.index := by omega
  have inYear : e.day < yearLength (400 * era + e.yearOfEra + 1) := by
    unfold yearLength
    rcases e.day_le with short | ⟨long, -⟩
    · split <;> omega
    · rw [if_pos (e.isLeapYear_of_day era long)]
      omega
  have valid := valid_ofYearDay e.day_nonneg inYear
  have years : daysBeforeYear (400 * era + e.yearOfEra + 1) = n - 1 - e.day := by
    have hc := e.century_range
    have hq := e.cycle_range
    have hr := e.year_range
    simp only [daysBeforeYear, EraDay.yearOfEra]
    unfold EraDay.index at index
    omega
  have number := valid.ordinal_eq
  rw [ordinal_ofYearDay, years] at number
  rw [ofOrdinal_eq index, ← ofEpochDay_epochDay valid]
  congr 1
  omega

end Date

end Almanac
