import Almanac.Proofs.ValidSteps
import Almanac.Proofs.YearRange

namespace Almanac

namespace Date

variable {d e : Date}

theorem leapDaysUntil_le {y z : Int} (h : y ≤ z) : leapDaysUntil z ≤ leapDaysUntil y + (z - y) := by
  have centuries (x : Int) : leapDaysUntil x = x / 4 - x / 100 + x / 100 / 4 := by
    unfold leapDaysUntil
    omega
  have later : y / 100 ≤ z / 100 := by omega
  rw [centuries, centuries]
  omega

/-- Years are no longer than 366 days. -/
theorem Valid.epochDay_le (hd : d.Valid) (he : e.Valid) {n : Int} (notBefore : -1 ≤ n)
    (near : e.year ≤ d.year + n) : e.epochDay ≤ d.epochDay + 366 * (n + 1) := by
  have started := mt (hd.epochDay_lt_newYear_iff d.year).mp (by omega)
  have ended := (he.epochDay_lt_newYear_iff (d.year + n + 1)).mpr (by omega)
  have leap := leapDaysUntil_le (show d.year - 1 ≤ d.year + n by omega)
  rw [epochDay_newYear] at started
  rw [epochDay_newYear, Int.add_sub_cancel] at ended
  omega

/-- The starts of the months, counted from the year 0, keep close to 146097 days for 4800 of
them. -/
theorem epochDay_first_range (count : Int) :
    -3453753000 ≤ 4800 * epochDay ⟨count / 12, count % 12 + 1, 1⟩ - 146097 * count
      ∧ 4800 * epochDay ⟨count / 12, count % 12 + 1, 1⟩ - 146097 * count ≤ -3453715000 := by
  unfold epochDay
  dsimp only
  split <;> omega

theorem Valid.firstOfMonth_eq (h : d.Valid) :
    d.firstOfMonth = ⟨(d.year * 12 + d.month - 1) / 12, (d.year * 12 + d.month - 1) % 12 + 1, 1⟩ := by
  obtain ⟨first, last, -⟩ := h
  unfold firstOfMonth
  rw [Date.mk.injEq]
  omega

theorem Valid.plusMonths_day (h : d.Valid) (months : Int) :
    d.day - 3 ≤ (d.plusMonths months).day ∧ (d.plusMonths months).day ≤ d.day := by
  have length := monthLength_range d.year d.month
  have length' := monthLength_range ((d.year * 12 + d.month - 1 + months) / 12)
    ((d.year * 12 + d.month - 1 + months) % 12 + 1)
  obtain ⟨-, -, -, last⟩ := h
  unfold Date.plusMonths
  dsimp only
  split <;> omega

/-- Two dates that are moved by the same number of months move by about as many days. -/
theorem Valid.epochDay_plusMonths_le (hd : d.Valid) (he : e.Valid) (months : Int) :
    (e.plusMonths months).epochDay - e.epochDay
      ≤ (d.plusMonths months).epochDay - d.epochDay + 19 := by
  have start := epochDay_first_range (d.year * 12 + d.month - 1)
  have start' := epochDay_first_range (e.year * 12 + e.month - 1)
  have moved := epochDay_first_range (d.year * 12 + d.month - 1 + months)
  have moved' := epochDay_first_range (e.year * 12 + e.month - 1 + months)
  have day := hd.plusMonths_day months
  have day' := he.plusMonths_day months
  rw [← hd.firstOfMonth_eq] at start
  rw [← he.firstOfMonth_eq] at start'
  change _ ≤ 4800 * (d.plusMonths months).firstOfMonth.epochDay - _
    ∧ 4800 * (d.plusMonths months).firstOfMonth.epochDay - _ ≤ _ at moved
  change _ ≤ 4800 * (e.plusMonths months).firstOfMonth.epochDay - _
    ∧ 4800 * (e.plusMonths months).firstOfMonth.epochDay - _ ≤ _ at moved'
  rw [epochDay_eq_first d, epochDay_eq_first e, epochDay_eq_first (d.plusMonths months),
    epochDay_eq_first (e.plusMonths months)]
  omega

end Date

namespace DateTime

/-- Two clocks show dates and times that are at most a number of days apart. -/
def Near (days : Int) (c d : DateTime) : Prop :=
  c.epochMillis 0 ≤ d.epochMillis 0 + days * millisPerDay
    ∧ d.epochMillis 0 ≤ c.epochMillis 0 + days * millisPerDay

variable {c d e : DateTime} {m n : Int}

theorem Near.symm (h : c.Near n d) : d.Near n c :=
  ⟨h.2, h.1⟩

theorem Near.mono (h : c.Near m d) (le : m ≤ n) : c.Near n d := by
  unfold Near millisPerDay at *
  omega

theorem Near.trans (h : c.Near m d) (h' : d.Near n e) : c.Near (m + n) e := by
  unfold Near millisPerDay at *
  omega

theorem epochMillis_zero (c : DateTime) :
    c.epochMillis 0 = c.date.epochDay * millisPerDay + c.time.millis := by
  unfold epochMillis
  omega

theorem Valid.near_of_days (hc : c.Valid) (hd : d.Valid)
    (low : c.date.epochDay - n ≤ d.date.epochDay) (high : d.date.epochDay ≤ c.date.epochDay + n) :
    c.Near (n + 1) d := by
  obtain ⟨first, last⟩ := hc.2.millis_range
  obtain ⟨first', last'⟩ := hd.2.millis_range
  unfold Near
  rw [epochMillis_zero, epochMillis_zero]
  unfold millisPerDay at *
  omega

theorem Valid.near_of_years (hc : c.Valid) (hd : d.Valid) (positive : 0 ≤ n)
    (low : c.date.year - n ≤ d.date.year) (high : d.date.year ≤ c.date.year + n) :
    c.Near (366 * (n + 1) + 1) d := by
  have up := hc.1.epochDay_le hd.1 (n := n) (by omega) (by omega)
  have down := hd.1.epochDay_le hc.1 (n := n) (by omega) (by omega)
  exact hc.near_of_days hd (by omega) (by omega)

theorem Near.year (h : c.Near n d) (hc : c.Valid) (hd : d.Valid) (positive : 0 ≤ n) :
    d.date.year - (n / 365 + 2) ≤ c.date.year ∧ c.date.year ≤ d.date.year + (n / 365 + 2) := by
  unfold Near millisPerDay at h
  have up := hd.year_le hc (n := n / 365 + 1) (by omega) (by unfold millisPerDay; omega)
  have down := hc.year_le hd (n := n / 365 + 1) (by omega) (by unfold millisPerDay; omega)
  omega

/-- Steps of fixed length keep the distance of two clocks, and steps of the calendar let it grow by
a few days. -/
theorem Near.plus (h : c.Near n d) (hc : c.Valid) (hd : d.Valid) (amount : Int) (unit : TimeUnit) :
    (c.plus amount unit).Near (n + 19) (d.plus amount unit) := by
  unfold DateTime.plus
  cases unit.span with
  | millis count =>
    have moved := c.epochMillis_plusMillis (amount * count)
    have moved' := d.epochMillis_plusMillis (amount * count)
    unfold Near millisPerDay at *
    dsimp only
    rw [moved, moved']
    omega
  | months count =>
    have day := hc.1.epochDay_plusMonths_le hd.1 (amount * count)
    have day' := hd.1.epochDay_plusMonths_le hc.1 (amount * count)
    unfold Near at *
    rw [epochMillis_zero, epochMillis_zero] at h
    unfold plusMonths
    dsimp only
    rw [epochMillis_zero, epochMillis_zero]
    dsimp only
    unfold millisPerDay at *
    omega

end DateTime

end Almanac
