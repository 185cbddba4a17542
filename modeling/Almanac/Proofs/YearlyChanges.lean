import Almanac.Proofs.ClockReading
import Almanac.Proofs.OffsetHistory

namespace Almanac

/-- The first second of a year. -/
def newYearSecond (year : Int) : Int :=
  Date.epochDay ⟨year, 1, 1⟩ * secondsPerDay

/-- The year in which an epoch second lies. -/
def yearOfSecond (second : Int) : Int :=
  (Date.ofEpochDay (second / secondsPerDay)).year

theorem lt_newYearSecond_iff (second year : Int) :
    second < newYearSecond year ↔ yearOfSecond second < year := by
  have day := (Date.valid_ofEpochDay (second / secondsPerDay)).epochDay_lt_newYear_iff year
  rw [Date.epochDay_ofEpochDay] at day
  unfold yearOfSecond newYearSecond
  rw [← day]
  unfold secondsPerDay
  omega

theorem yearOfSecond_eq {second year : Int} (low : newYearSecond year ≤ second)
    (high : second < newYearSecond (year + 1)) : yearOfSecond second = year := by
  have before := (lt_newYearSecond_iff second (year + 1)).mp high
  have after := mt (lt_newYearSecond_iff second year).mpr (Int.not_lt.mpr low)
  omega

/-- From March on, months begin 59 days and the lengths of the months between after the year, or
a day later. -/
theorem Date.epochDay_month {year month : Int} (h : 3 ≤ month ∧ month ≤ 12) :
    epochDay ⟨year, 1, 1⟩ + 59 + (153 * (month - 3) + 2) / 5 ≤ epochDay ⟨year, month, 1⟩
      ∧ epochDay ⟨year, month, 1⟩ ≤ epochDay ⟨year, 1, 1⟩ + 60 + (153 * (month - 3) + 2) / 5 := by
  have leap : leapDaysUntil (year - 1) ≤ leapDaysUntil year
      ∧ leapDaysUntil year ≤ leapDaysUntil (year - 1) + 1 := by
    unfold leapDaysUntil
    omega
  have turn : yearFromMarch ⟨year, month, 1⟩ = year := by
    simp only [yearFromMarch]
    split <;> omega
  have start : dayFromMarch ⟨year, month, 1⟩ = (153 * (month - 3) + 2) / 5 := by
    simp only [dayFromMarch]
    omega
  rw [epochDay_newYear, epochDay_eq, turn, start]
  omega

/-- A moment that is given as in a rule: the week, the weekday and the time are in their ranges, and
the month is far from the ends of the year. -/
def YearlyMoment.Proper (m : YearlyMoment) : Prop :=
  (3 ≤ m.month ∧ m.month ≤ 11) ∧ (1 ≤ m.week ∧ m.week ≤ 5) ∧ (0 ≤ m.weekday ∧ m.weekday ≤ 6)
    ∧ -secondsPerDay ≤ m.time ∧ m.time ≤ secondsPerDay

instance (m : YearlyMoment) : Decidable m.Proper :=
  inferInstanceAs (Decidable (_ ∧ _ ∧ _ ∧ _))

/-- A moment lies in its month, but for the hours by which its time leaves the day. -/
theorem YearlyMoment.Proper.wallSecond_range {m : YearlyMoment} (h : m.Proper) (year : Int) :
    Date.epochDay ⟨year, m.month, 1⟩ * secondsPerDay + m.time ≤ m.wallSecond year
      ∧ m.wallSecond year ≤ (Date.epochDay ⟨year, m.month, 1⟩ + 30) * secondsPerDay + m.time := by
  obtain ⟨-, week, weekday, -⟩ := h
  have length := monthLength_range year m.month
  simp only [YearlyMoment.wallSecond]
  obtain ⟨first, hf⟩ : ∃ n, Date.epochDay ⟨year, m.month, 1⟩ = n := ⟨_, rfl⟩
  rw [hf]
  unfold secondsPerDay
  split <;> omega

namespace YearlyRule

def toDaylightIn (r : YearlyRule) (year : Int) : OffsetChange :=
  ⟨r.toDaylight.wallSecond year - r.standard, r.daylight⟩

def toStandardIn (r : YearlyRule) (year : Int) : OffsetChange :=
  ⟨r.toStandard.wallSecond year - r.daylight, r.standard⟩

/-- A rule whose two changes are a month or more apart, between clocks that are at most fifteen
hours away from UTC. -/
def Proper (r : YearlyRule) : Prop :=
  (r.toDaylight.Proper ∧ r.toStandard.Proper)
    ∧ (r.toDaylight.month + 2 ≤ r.toStandard.month ∨ r.toStandard.month + 2 ≤ r.toDaylight.month)
    ∧ (-54000 ≤ r.standard ∧ r.standard ≤ 54000) ∧ -54000 ≤ r.daylight ∧ r.daylight ≤ 54000

instance (r : YearlyRule) : Decidable r.Proper :=
  inferInstanceAs (Decidable (_ ∧ _ ∧ _ ∧ _))

/-- The changes of a rule come in two kinds, an early and a late one in each year. -/
structure Alternates (r : YearlyRule) (early late : Int → OffsetChange) : Prop where
  changes_eq : ∀ year, r.changes year = [early year, late year]
  newYear_le : ∀ year, newYearSecond year ≤ (early year).second
  early_late : ∀ year, (early year).second + fiveDays ≤ (late year).second
  late_newYear : ∀ year, (late year).second + fiveDays ≤ newYearSecond (year + 1)

/-- Moments two months apart are five days apart for whatever clock, and in the middle of the year. -/
theorem moments_apart {a b : YearlyMoment} (ha : a.Proper) (hb : b.Proper)
    (apart : a.month + 2 ≤ b.month) {x y : Int} (hx : -54000 ≤ x ∧ x ≤ 54000)
    (hy : -54000 ≤ y ∧ y ≤ 54000) (year : Int) :
    newYearSecond year + fiveDays ≤ a.wallSecond year - x
      ∧ a.wallSecond year - x + fiveDays ≤ b.wallSecond year - y
      ∧ b.wallSecond year - y + fiveDays ≤ newYearSecond (year + 1) := by
  obtain ⟨la, ua⟩ := ha.wallSecond_range year
  obtain ⟨lb, ub⟩ := hb.wallSecond_range year
  obtain ⟨ma, -, -, ta⟩ := ha
  obtain ⟨mb, -, -, tb⟩ := hb
  obtain ⟨sa, sa'⟩ := @Date.epochDay_month year a.month (by omega)
  obtain ⟨sb, sb'⟩ := @Date.epochDay_month year b.month (by omega)
  have next : Date.epochDay ⟨year, 1, 1⟩ + 365 ≤ Date.epochDay ⟨year + 1, 1, 1⟩ := by
    have := Date.leapDaysUntil_mono (show year - 1 ≤ year + 1 - 1 by omega)
    rw [Date.epochDay_newYear, Date.epochDay_newYear]
    omega
  unfold newYearSecond fiveDays secondsPerDay at *
  refine ⟨by omega, by omega, by omega⟩

theorem le_of_fiveDays_le {a b : Int} (h : a + fiveDays ≤ b) : a ≤ b :=
  Int.le_trans (Int.le_add_of_nonneg_right (by decide)) h

/-- The two kinds of changes of a rule keep away from the new year, and the late one is always to the
same offset. -/
theorem Proper.exists_alternates {r : YearlyRule} (h : r.Proper) :
    ∃ early late, r.Alternates early late
      ∧ (∀ year, newYearSecond year + fiveDays ≤ (early year).second)
      ∧ ∃ offset, ∀ year, (late year).offset = offset := by
  obtain ⟨⟨hd, hs⟩, apart | apart, standard, daylight⟩ := h
  · have apart := moments_apart hd hs apart standard daylight
    refine ⟨r.toDaylightIn, r.toStandardIn, ⟨fun year => ?_,
      fun year => le_of_fiveDays_le (apart year).1, fun year => (apart year).2.1,
      fun year => (apart year).2.2⟩, fun year => (apart year).1, r.standard, fun _ => rfl⟩
    exact if_pos (le_of_fiveDays_le (apart year).2.1)
  · have apart := moments_apart hs hd apart daylight standard
    refine ⟨r.toStandardIn, r.toDaylightIn, ⟨fun year => ?_,
      fun year => le_of_fiveDays_le (apart year).1, fun year => (apart year).2.1,
      fun year => (apart year).2.2⟩, fun year => (apart year).1, r.daylight, fun _ => rfl⟩
    have order := (apart year).2.1
    unfold fiveDays at order
    exact if_neg (by dsimp only; omega)

theorem Proper.alternates {r : YearlyRule} (h : r.Proper) :
    ∃ early late, r.Alternates early late := by
  obtain ⟨early, late, alternates, -, -⟩ := h.exists_alternates
  exact ⟨early, late, alternates⟩

end YearlyRule

end Almanac
