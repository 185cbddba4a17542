import Almanac.Calendar.Date

namespace Almanac

theorem month_cases {month : Int} (h0 : 1 ≤ month) (h1 : month ≤ 12) :
    month = 1 ∨ month = 2 ∨ month = 3 ∨ month = 4 ∨ month = 5 ∨ month = 6 ∨ month = 7 ∨ month = 8
      ∨ month = 9 ∨ month = 10 ∨ month = 11 ∨ month = 12 := by
  omega

/-- A day of the 400 years after which the calendar repeats, which begin on 1 March: the century,
the cycle of four years in it, the year of the cycle and the day of the year. Only the last year of
a cycle has a day 365, and not in the last cycle of the first three centuries. -/
structure EraDay where
  century : Int
  cycle : Int
  year : Int
  day : Int
  century_range : 0 ≤ century ∧ century ≤ 3
  cycle_range : 0 ≤ cycle ∧ cycle ≤ 24
  year_range : 0 ≤ year ∧ year ≤ 3
  day_nonneg : 0 ≤ day
  day_le : day ≤ 364 ∨ day = 365 ∧ year = 3 ∧ (cycle < 24 ∨ century = 3)

namespace EraDay

/-- The days before this one in the 400 years. -/
def index (e : EraDay) : Int :=
  36524 * e.century + 1461 * e.cycle + 365 * e.year + e.day

/-- The years before the one of this day. -/
def yearOfEra (e : EraDay) : Int :=
  100 * e.century + 4 * e.cycle + e.year

theorem index_range (e : EraDay) : 0 ≤ e.index ∧ e.index ≤ 146096 := by
  have := e.century_range
  have := e.cycle_range
  have := e.year_range
  have := e.day_nonneg
  have := e.day_le
  unfold index
  omega

/-- Taking one day from each cycle, and giving one back to each century, leaves years of 365
days. -/
theorem yearOfEra_eq (e : EraDay) :
    (e.index - e.index / 1460 + e.index / 36524 - e.index / 146096) / 365 = e.yearOfEra := by
  have hc := e.century_range
  have hq := e.cycle_range
  have hr := e.year_range
  have h0 := e.day_nonneg
  have h1 := e.day_le
  obtain ⟨i, hi⟩ : ∃ i, e.index = i := ⟨_, rfl⟩
  rw [hi]
  unfold index at hi
  unfold yearOfEra
  have cycles : i / 1460 = 25 * e.century + e.cycle
      + (24 * e.century + e.cycle + 365 * e.year + e.day) / 1460 := by omega
  have bound : 1461 * e.cycle + 365 * e.year + e.day < 36524 ∨ i = 146096 := by omega
  have centuries : i / 36524 - i / 146096 = e.century := by omega
  omega

theorem exists_index {i : Int} (h0 : 0 ≤ i) (h1 : i ≤ 146096) : ∃ e : EraDay, e.index = i := by
  by_cases last : i = 146096
  · exact ⟨⟨3, 24, 3, 365, by omega, by omega, by omega, by omega, by omega⟩, last.symm⟩
  have hc : i / 36524 ≤ 3 := by omega
  by_cases leap : i % 36524 % 1461 = 1460
  · exact ⟨⟨i / 36524, i % 36524 / 1461, 3, 365, by omega, by omega, by omega, by omega,
      by omega⟩, by simp only [index]; omega⟩
  · exact ⟨⟨i / 36524, i % 36524 / 1461, i % 36524 % 1461 / 365, i % 36524 % 1461 % 365, by omega,
      by omega, by omega, by omega, by omega⟩, by simp only [index]; omega⟩

/-- The last day of a long year comes before the first of March in a leap year. -/
theorem isLeapYear_of_day (e : EraDay) (era : Int) (h : e.day = 365) :
    isLeapYear (400 * era + e.yearOfEra + 1) = true := by
  have := e.century_range
  have := e.cycle_range
  have := e.day_le
  unfold isLeapYear yearOfEra
  exact decide_eq_true (by omega)

end EraDay

theorem monthLength_range (year month : Int) :
    28 ≤ monthLength year month ∧ monthLength year month ≤ 31 := by
  unfold monthLength
  repeat' split
  all_goals omega

namespace Date

theorem ofEpochDay_eq {n era : Int} {e : EraDay} (h : n + 719468 = 146097 * era + e.index) :
    ofEpochDay n =
      let monthFromMarch := (5 * e.day + 2) / 153
      let month := if monthFromMarch < 10 then monthFromMarch + 3 else monthFromMarch - 9
      let year := era * 400 + e.yearOfEra
      { year := if month ≤ 2 then year + 1 else year
        month := month
        day := e.day - (153 * monthFromMarch + 2) / 5 + 1 } := by
  have range := e.index_range
  have dayOfEra : (n + 719468) % 146097 = e.index := by omega
  have eras : (n + 719468) / 146097 = era := by omega
  have dayOfYear :
      e.index - (365 * e.yearOfEra + e.yearOfEra / 4 - e.yearOfEra / 100) = e.day := by
    have := e.century_range
    have := e.cycle_range
    have := e.year_range
    unfold EraDay.index EraDay.yearOfEra
    omega
  simp only [ofEpochDay, dayOfEra, eras, e.yearOfEra_eq, dayOfYear]

theorem exists_eraDay (n : Int) : ∃ era e, n + 719468 = 146097 * era + EraDay.index e := by
  obtain ⟨e, he⟩ := EraDay.exists_index (i := (n + 719468) % 146097) (by omega) (by omega)
  exact ⟨(n + 719468) / 146097, e, by omega⟩

/-- The months from March on begin after 0, 31, 61, … days. -/
theorem monthFromMarch_cases {day : Int} (h0 : 0 ≤ day) (h1 : day ≤ 365) :
    0 ≤ (5 * day + 2) / 153 ∧ (5 * day + 2) / 153 ≤ 11 := by
  omega

theorem epochDay_ofEpochDay (n : Int) : (ofEpochDay n).epochDay = n := by
  obtain ⟨era, e, h⟩ := exists_eraDay n
  have hc := e.century_range
  have hq := e.cycle_range
  have hr := e.year_range
  have hd := e.day_le
  have month := monthFromMarch_cases e.day_nonneg (by omega)
  rw [ofEpochDay_eq h]
  unfold EraDay.index at h
  obtain ⟨m, hm⟩ : ∃ m, (5 * e.day + 2) / 153 = m := ⟨_, rfl⟩
  obtain ⟨y, hy⟩ : ∃ y, e.yearOfEra = y := ⟨_, rfl⟩
  simp only [hm, hy] at month ⊢
  unfold EraDay.yearOfEra at hy
  unfold epochDay
  by_cases spring : m < 10
  · simp only [spring, if_true, show ¬ m + 3 ≤ 2 by omega, if_false]
    omega
  · simp only [spring, if_false, show m - 9 ≤ 2 by omega, if_true]
    omega

/-- A month of a year that is counted from March ends before the next one begins. -/
theorem day_le_monthLength {day m year : Int} (hm : (5 * day + 2) / 153 = m) (h0 : 0 ≤ day)
    (h1 : day ≤ 365) (leap : day = 365 → isLeapYear year = true) :
    day - (153 * m + 2) / 5 + 1 ≤ monthLength year (if m < 10 then m + 3 else m - 9) := by
  have cases : m = 0 ∨ m = 1 ∨ m = 2 ∨ m = 3 ∨ m = 4 ∨ m = 5 ∨ m = 6 ∨ m = 7 ∨ m = 8 ∨ m = 9
      ∨ m = 10 ∨ m = 11 := by omega
  unfold monthLength
  rcases cases with rfl | rfl | rfl | rfl | rfl | rfl | rfl | rfl | rfl | rfl | rfl | rfl
  case inr.inr.inr.inr.inr.inr.inr.inr.inr.inr.inr =>
    by_cases last : day = 365
    · simp [leap last, last]
    · have : day - (153 * 11 + 2) / 5 + 1 ≤ 28 := by omega
      split <;> split <;> omega
  all_goals
    simp
    omega

theorem valid_ofEpochDay (n : Int) : (ofEpochDay n).Valid := by
  obtain ⟨era, e, h⟩ := exists_eraDay n
  have hd := e.day_le
  have month := monthFromMarch_cases e.day_nonneg (by omega)
  rw [ofEpochDay_eq h]
  obtain ⟨m, hm⟩ : ∃ m, (5 * e.day + 2) / 153 = m := ⟨_, rfl⟩
  simp only [hm] at month ⊢
  refine ⟨by simp only; omega, by simp only; omega, by simp only; omega, ?_⟩
  apply day_le_monthLength hm e.day_nonneg (by omega)
  intro last
  have february : m = 11 := by omega
  have := e.isLeapYear_of_day era last
  simpa [february, Int.mul_comm] using this

/-- The year to which a date belongs when years begin on 1 March. -/
def yearFromMarch (d : Date) : Int :=
  if d.month ≤ 2 then d.year - 1 else d.year

/-- The days of that year before a date. -/
def dayFromMarch (d : Date) : Int :=
  (153 * ((d.month + 9) % 12) + 2) / 5 + d.day - 1

theorem isLeapYear_iff {year : Int} :
    isLeapYear year = true ↔ year % 4 = 0 ∧ (year % 100 ≠ 0 ∨ year % 400 = 0) := by
  simp [isLeapYear]

theorem Valid.day_le_leap {d : Date} (h : d.Valid) :
    d.day ≤ 31 ∧ (d.month = 2 → d.day ≤ 28 ∨ d.day = 29 ∧ isLeapYear d.year = true)
      ∧ (d.month = 4 ∨ d.month = 6 ∨ d.month = 9 ∨ d.month = 11 → d.day ≤ 30) := by
  have bound := h.2.2.2
  have := monthLength_range d.year d.month
  refine ⟨by omega, ?_, ?_⟩
  · intro february
    simp only [monthLength, february, if_true] at bound
    split at bound
    next leap => exact (Int.lt_or_le 28 d.day).elim (fun _ => .inr ⟨by omega, leap⟩) .inl
    next => exact .inl bound
  · intro short
    simp only [monthLength, short, if_true] at bound
    split at bound <;> omega

/-- The day of a year that begins in March fixes its month and the day of the month. -/
theorem Valid.dayFromMarch_spec {d : Date} (h : d.Valid) :
    0 ≤ d.dayFromMarch ∧ (5 * d.dayFromMarch + 2) / 153 = (d.month + 9) % 12
      ∧ (d.dayFromMarch ≤ 364 ∨ d.dayFromMarch = 365 ∧ d.month = 2 ∧ isLeapYear d.year = true) := by
  obtain ⟨h31, h28, h30⟩ := h.day_le_leap
  have h1 := h.2.2.1
  unfold dayFromMarch
  rcases month_cases h.1 h.2.1 with m | m | m | m | m | m | m | m | m | m | m | m
  case inr.inl =>
    rcases h28 m with low | ⟨last, leap⟩
    · exact ⟨by omega, by omega, by omega⟩
    · exact ⟨by omega, by omega, .inr ⟨by omega, m, leap⟩⟩
  all_goals exact ⟨by omega, by omega, by omega⟩

theorem Valid.exists_eraDay {d : Date} (h : d.Valid) :
    ∃ era e, d.epochDay + 719468 = 146097 * era + EraDay.index e
      ∧ era * 400 + e.yearOfEra = d.yearFromMarch ∧ e.day = d.dayFromMarch := by
  obtain ⟨h0, -, last⟩ := h.dayFromMarch_spec
  have leap : d.dayFromMarch = 365 → d.month = 2 ∧ isLeapYear d.year = true := fun long =>
    last.elim (fun short => by omega) And.right
  obtain ⟨y, hy⟩ : ∃ y, d.yearFromMarch = y := ⟨_, rfl⟩
  have long : d.dayFromMarch ≤ 364
      ∨ d.dayFromMarch = 365 ∧ y % 4 = 3 ∧ (y % 100 / 4 < 24 ∨ y % 400 / 100 = 3) := by
    refine last.imp id fun ⟨long, february, leap⟩ => ⟨long, ?_⟩
    have := isLeapYear_iff.mp leap
    simp only [yearFromMarch, february] at hy
    omega
  refine ⟨y / 400, ⟨y % 400 / 100, y % 100 / 4, y % 4, d.dayFromMarch, by omega, by omega, by omega,
    h0, long⟩, ?_, ?_, rfl⟩
  · simp only [EraDay.index, epochDay]
    unfold dayFromMarch
    unfold yearFromMarch at hy
    rw [hy]
    omega
  · simp only [EraDay.yearOfEra]
    omega

theorem ofEpochDay_epochDay {d : Date} (h : d.Valid) : ofEpochDay d.epochDay = d := by
  obtain ⟨era, e, index, year, day⟩ := h.exists_eraDay
  obtain ⟨-, month, -⟩ := h.dayFromMarch_spec
  have low := h.1
  have high := h.2.1
  rw [ofEpochDay_eq index]
  simp only [day, year, month]
  have back : (if (d.month + 9) % 12 < 10 then (d.month + 9) % 12 + 3 else (d.month + 9) % 12 - 9)
      = d.month := by
    split <;> omega
  have count : d.dayFromMarch - (153 * ((d.month + 9) % 12) + 2) / 5 + 1 = d.day := by
    unfold dayFromMarch
    omega
  have turn : (if d.month ≤ 2 then d.yearFromMarch + 1 else d.yearFromMarch) = d.year := by
    unfold yearFromMarch
    split <;> omega
  simp only [back, count, turn]

theorem valid_plusDays (d : Date) (days : Int) : (d.plusDays days).Valid :=
  valid_ofEpochDay _

theorem epochDay_plusDays (d : Date) (days : Int) :
    (d.plusDays days).epochDay = d.epochDay + days :=
  epochDay_ofEpochDay _

end Date

end Almanac
