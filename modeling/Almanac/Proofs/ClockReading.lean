import Almanac.Instant.Basic
import Almanac.Proofs.DayCount
import Mathlib.Tactic.ByContra

namespace Almanac

namespace TimeOfDay

theorem Valid.millis_range {t : TimeOfDay} (h : t.Valid) : 0 ≤ t.millis ∧ t.millis < millisPerDay := by
  obtain ⟨hour, minute, second, milli⟩ := h
  unfold millis millisPerDay
  omega

theorem valid_ofMillis {n : Int} (h0 : 0 ≤ n) (h1 : n < millisPerDay) : (ofMillis n).Valid := by
  unfold millisPerDay at h1
  simp only [Valid, ofMillis]
  omega

theorem millis_ofMillis (n : Int) : (ofMillis n).millis = n := by
  simp only [millis, ofMillis]
  omega

theorem ofMillis_millis {t : TimeOfDay} (h : t.Valid) : ofMillis t.millis = t := by
  obtain ⟨hour, minute, second, milli⟩ := h
  obtain ⟨a, b, c, d⟩ := t
  simp only [ofMillis, millis, TimeOfDay.mk.injEq] at *
  omega

end TimeOfDay

namespace Date

/-- The leap days of the years before one, counted from the year 0. -/
def leapDaysUntil (year : Int) : Int :=
  year / 4 - year / 100 + year / 400

theorem leapDaysUntil_mono {y z : Int} (h : y ≤ z) : leapDaysUntil y ≤ leapDaysUntil z := by
  have quarter : y / 4 ≤ z / 4 := by omega
  have hy : y / 100 = y / 4 / 25 ∧ y / 400 = y / 4 / 100 := by omega
  have hz : z / 100 = z / 4 / 25 ∧ z / 400 = z / 4 / 100 := by omega
  unfold leapDaysUntil
  rw [hy.1, hy.2, hz.1, hz.2]
  omega

theorem epochDay_eq (d : Date) :
    d.epochDay = 365 * d.yearFromMarch + leapDaysUntil d.yearFromMarch + d.dayFromMarch
      - 719468 := by
  obtain ⟨y, hy⟩ : ∃ y, d.yearFromMarch = y := ⟨_, rfl⟩
  rw [hy]
  unfold yearFromMarch at hy
  simp only [epochDay, hy, leapDaysUntil, dayFromMarch]
  omega

theorem epochDay_newYear (year : Int) :
    epochDay ⟨year, 1, 1⟩ = 365 * year + leapDaysUntil (year - 1) - 719527 := by
  simp only [epochDay, leapDaysUntil, show (1 : Int) ≤ 2 by decide, if_true]
  omega

theorem epochDay_newYear_mono {y z : Int} (h : y ≤ z) :
    epochDay ⟨y, 1, 1⟩ ≤ epochDay ⟨z, 1, 1⟩ := by
  have leap := leapDaysUntil_mono (show y - 1 ≤ z - 1 by omega)
  rw [epochDay_newYear, epochDay_newYear]
  omega

theorem epochDay_eq_first (d : Date) : d.epochDay = d.firstOfMonth.epochDay + (d.day - 1) := by
  unfold epochDay firstOfMonth
  dsimp only
  omega

theorem Valid.epochDay_lt_newYear_iff {d : Date} (h : d.Valid) (year : Int) :
    d.epochDay < epochDay ⟨year, 1, 1⟩ ↔ d.year < year := by
  obtain ⟨h0, month, last⟩ := h.dayFromMarch_spec
  have low := h.1
  have high := h.2.1
  rw [epochDay_eq, epochDay_newYear]
  by_cases early : d.month ≤ 2
  · have turn : d.yearFromMarch = d.year - 1 := by simp [yearFromMarch, early]
    rw [turn]
    constructor
    · intro before
      by_contra late
      have := leapDaysUntil_mono (show year - 1 ≤ d.year - 1 by omega)
      omega
    · intro before
      have := leapDaysUntil_mono (show d.year - 1 ≤ year - 1 by omega)
      omega
  · have turn : d.yearFromMarch = d.year := by simp [yearFromMarch, early]
    rw [turn]
    constructor
    · intro before
      by_contra late
      have := leapDaysUntil_mono (show year - 1 ≤ d.year by omega)
      omega
    · intro before
      have := leapDaysUntil_mono (show d.year ≤ year - 1 by omega)
      omega

end Date

namespace DateTime

theorem valid_ofEpochMillis (millis offset : Int) : (ofEpochMillis millis offset).Valid := by
  refine ⟨Date.valid_ofEpochDay _, TimeOfDay.valid_ofMillis ?_ ?_⟩
  · exact Int.emod_nonneg _ (by decide)
  · exact Int.emod_lt_of_pos _ (by decide)

theorem epochMillis_ofEpochMillis (millis offset : Int) :
    (ofEpochMillis millis offset).epochMillis offset = millis := by
  simp only [epochMillis, ofEpochMillis, Date.epochDay_ofEpochDay, TimeOfDay.millis_ofMillis]
  unfold millisPerDay millisPerSecond
  omega

theorem epochMillis_plusMillis (c : DateTime) (millis : Int) :
    (c.plusMillis millis).epochMillis 0 = c.epochMillis 0 + millis :=
  epochMillis_ofEpochMillis _ 0

theorem ofEpochMillis_epochMillis {c : DateTime} (h : c.Valid) (offset : Int) :
    ofEpochMillis (c.epochMillis offset) offset = c := by
  obtain ⟨low, high⟩ := h.2.millis_range
  have wall : c.epochMillis offset + offset * millisPerSecond
      = c.date.epochDay * millisPerDay + c.time.millis := by
    unfold epochMillis
    omega
  have day : (c.date.epochDay * millisPerDay + c.time.millis) / millisPerDay = c.date.epochDay := by
    unfold millisPerDay at *
    omega
  have time : (c.date.epochDay * millisPerDay + c.time.millis) % millisPerDay = c.time.millis := by
    unfold millisPerDay at *
    omega
  simp only [ofEpochMillis, wall, day, time, Date.ofEpochDay_epochDay h.1,
    TimeOfDay.ofMillis_millis h.2]

theorem Valid.eq_of_epochMillis {c d : DateTime} (hc : c.Valid) (hd : d.Valid) {offset : Int}
    (same : c.epochMillis offset = d.epochMillis offset) : c = d := by
  rw [← ofEpochMillis_epochMillis hc offset, same, ofEpochMillis_epochMillis hd offset]

theorem checked_of_valid {c : DateTime} (h : c.Valid) : c.checked = .ok c := by
  simp only [checked, fault?_eq_none_iff.mpr h]

theorem valid_of_checked {c d : DateTime} (h : c.checked = .ok d) : c.Valid ∧ d = c := by
  unfold checked at h
  split at h
  · cases h
  next sound =>
    cases h
    exact ⟨fault?_eq_none_iff.mp sound, rfl⟩

/-- A date and time is made, or one of its fields is out of range. -/
theorem checked_cases (c : DateTime) :
    c.Valid ∧ c.checked = .ok c ∨ ¬ c.Valid ∧ ∃ fault, c.checked = .error fault := by
  cases passed : c.checked with
  | ok d =>
    obtain ⟨valid, rfl⟩ := valid_of_checked passed
    exact .inl ⟨valid, rfl⟩
  | error fault =>
    refine .inr ⟨fun valid => ?_, fault, rfl⟩
    rw [checked_of_valid valid] at passed
    cases passed

theorem epochMillis_eq (c : DateTime) (offset : Int) :
    c.epochMillis offset = c.epochMillis 0 - offset * 1000 := by
  unfold epochMillis millisPerSecond
  omega

end DateTime

namespace Instant

theorem eq_iff {i j : Instant} : i = j ↔ i.epochMillis = j.epochMillis := by
  cases i
  cases j
  rw [Instant.mk.injEq]

theorem valid_dateTime (i : Instant) (offset : Int) : (i.dateTime offset).Valid :=
  DateTime.valid_ofEpochMillis _ _

theorem epochMillis_shown (i : Instant) (offset : Int) :
    (i.dateTime offset).epochMillis offset = i.epochMillis :=
  DateTime.epochMillis_ofEpochMillis _ _

theorem instant_dateTime (i : Instant) (offset : Int) : (i.dateTime offset).instant offset = i :=
  congrArg Instant.mk (i.epochMillis_shown offset)

theorem dateTime_instant {c : DateTime} (h : c.Valid) (offset : Int) :
    (c.instant offset).dateTime offset = c :=
  DateTime.ofEpochMillis_epochMillis h offset

theorem dateTime_eq_iff {i : Instant} {c : DateTime} {offset : Int} (h : c.Valid) :
    i.dateTime offset = c ↔ i = c.instant offset := by
  constructor
  · rintro rfl
    exact (i.instant_dateTime offset).symm
  · rintro rfl
    exact dateTime_instant h offset

end Instant

end Almanac
