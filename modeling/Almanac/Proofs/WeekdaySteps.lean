import Almanac.Proofs.IsoWeeks
import Almanac.Proofs.RepeatedMonths

namespace Almanac

namespace Date

/-- The days from one date to another. -/
def daysUntil (d e : Date) : Int :=
  e.epochDay - d.epochDay

variable {d e : Date} {w : Weekday}

theorem daysUntil_plusDays (d : Date) (n : Int) : d.daysUntil (d.plusDays n) = n := by
  have day := d.epochDay_plusDays n
  unfold daysUntil
  omega

theorem Valid.eq_of_epochDay (hd : d.Valid) (he : e.Valid) (same : d.epochDay = e.epochDay) :
    d = e := by
  rw [← ofEpochDay_epochDay hd, same, ofEpochDay_epochDay he]

theorem Valid.le_iff_epochDay (hd : d.Valid) (he : e.Valid) : d ≤ e ↔ d.epochDay ≤ e.epochDay := by
  change (compare d e).isLE ↔ _
  rw [← hd.compare_epochDay he, Int.isLE_compare]

/-- The weekday of a later date is as many days further on, and of an earlier one as many back. -/
theorem weekday_daysUntil (d e : Date) :
    (e.weekday.number - d.weekday.number) % 7 = d.daysUntil e % 7 := by
  have number := d.number_weekday
  have number' := e.number_weekday
  unfold daysUntil
  omega

theorem weekday_eq_weekday_iff : d.weekday = e.weekday ↔ d.daysUntil e % 7 = 0 := by
  have range := d.weekday.number_range
  have range' := e.weekday.number_range
  rw [← weekday_daysUntil]
  constructor
  · intro same
    rw [same, Int.sub_self]
    rfl
  · intro apart
    apply Weekday.number_injective
    omega

/-- No weekday comes twice in seven days. -/
theorem Valid.eq_of_weekday (hd : d.Valid) (he : e.Valid) (same : d.weekday = e.weekday)
    (after : -7 < d.daysUntil e) (before : d.daysUntil e < 7) : d = e := by
  have weeks := weekday_eq_weekday_iff.mp same
  apply hd.eq_of_epochDay he
  unfold daysUntil at *
  omega

theorem weekday_plusDays_eq_iff {n : Int} :
    (d.plusDays n).weekday = w ↔ n % 7 = (w.number - d.weekday.number) % 7 := by
  have advanced := d.weekday_daysUntil (d.plusDays n)
  have range := (d.plusDays n).weekday.number_range
  have range' := w.number_range
  rw [daysUntil_plusDays] at advanced
  constructor
  · rintro rfl
    exact advanced.symm
  · intro apart
    apply Weekday.number_injective
    omega

theorem next_spec (d : Date) (w : Weekday) :
    (d.next w).Valid ∧ (d.next w).weekday = w ∧ 1 ≤ d.daysUntil (d.next w)
      ∧ d.daysUntil (d.next w) ≤ 7 := by
  obtain ⟨n, step, first, last, weeks⟩ : ∃ n, d.next w = d.plusDays n ∧ 1 ≤ n ∧ n ≤ 7
      ∧ n % 7 = (w.number - d.weekday.number) % 7 := by
    refine ⟨_, rfl, ?_⟩
    split <;> omega
  rw [step, daysUntil_plusDays]
  exact ⟨d.valid_plusDays n, weekday_plusDays_eq_iff.mpr weeks, first, last⟩

theorem previous_spec (d : Date) (w : Weekday) :
    (d.previous w).Valid ∧ (d.previous w).weekday = w ∧ 1 ≤ (d.previous w).daysUntil d
      ∧ (d.previous w).daysUntil d ≤ 7 := by
  obtain ⟨n, step, first, last, weeks⟩ : ∃ n, d.previous w = d.plusDays n ∧ -7 ≤ n ∧ n ≤ -1
      ∧ n % 7 = (w.number - d.weekday.number) % 7 := by
    refine ⟨_, rfl, ?_⟩
    split <;> omega
  have back : (d.plusDays n).daysUntil d = -n := by
    have day := d.epochDay_plusDays n
    unfold daysUntil
    omega
  rw [step, back]
  exact ⟨d.valid_plusDays n, weekday_plusDays_eq_iff.mpr weeks, by omega, by omega⟩

theorem eq_next_iff :
    e = d.next w ↔ e.Valid ∧ e.weekday = w ∧ 1 ≤ d.daysUntil e ∧ d.daysUntil e ≤ 7 := by
  have spec := d.next_spec w
  constructor
  · rintro rfl
    exact spec
  · rintro ⟨valid, named, first, last⟩
    obtain ⟨valid', named', first', last'⟩ := spec
    apply valid.eq_of_weekday valid' (named.trans named'.symm)
    · unfold daysUntil at *
      omega
    · unfold daysUntil at *
      omega

theorem eq_previous_iff :
    e = d.previous w ↔ e.Valid ∧ e.weekday = w ∧ 1 ≤ e.daysUntil d ∧ e.daysUntil d ≤ 7 := by
  have spec := d.previous_spec w
  constructor
  · rintro rfl
    exact spec
  · rintro ⟨valid, named, first, last⟩
    obtain ⟨valid', named', first', last'⟩ := spec
    apply valid.eq_of_weekday valid' (named.trans named'.symm)
    · unfold daysUntil at *
      omega
    · unfold daysUntil at *
      omega

/-- The way back from the next one leads to the last one that has come already. -/
theorem previous_next (d : Date) (w : Weekday) :
    0 ≤ ((d.next w).previous w).daysUntil d ∧ ((d.next w).previous w).daysUntil d < 7 := by
  obtain ⟨-, named, first, last⟩ := d.next_spec w
  obtain ⟨-, named', first', last'⟩ := (d.next w).previous_spec w
  have weeks := weekday_eq_weekday_iff.mp (named'.trans named.symm)
  unfold daysUntil at *
  omega

theorem next_previous (d : Date) (w : Weekday) :
    0 ≤ d.daysUntil ((d.previous w).next w) ∧ d.daysUntil ((d.previous w).next w) < 7 := by
  obtain ⟨-, named, first, last⟩ := d.previous_spec w
  obtain ⟨-, named', first', last'⟩ := (d.previous w).next_spec w
  have weeks := weekday_eq_weekday_iff.mp (named.trans named'.symm)
  unfold daysUntil at *
  omega

end Date

namespace DateTime

variable {c d : DateTime} {w : Weekday}

theorem le_iff_of_time (time : c.time = d.time) : c ≤ d ↔ c.date ≤ d.date := by
  change (compare c d).isLE ↔ (compare c.date d.date).isLE
  rw [compare_eq, time, TimeOfDay.compare_self, Ordering.then_eq]

theorem Valid.le_iff_daysUntil (hc : c.Valid) (hd : d.Valid) (time : c.time = d.time) :
    c ≤ d ↔ 0 ≤ c.date.daysUntil d.date := by
  rw [le_iff_of_time time, hc.1.le_iff_epochDay hd.1]
  exact Int.sub_nonneg.symm

/-- Where one date alone has a property, one date and time alone has it at a given time of day. -/
theorem Valid.eq_on_date_iff (h : c.Valid) {date : Date} {only : Date → Prop}
    (alone : ∀ e, e = date ↔ e.Valid ∧ only e) :
    d = ⟨date, c.time⟩ ↔ (d.Valid ∧ d.time = c.time) ∧ only d.date := by
  constructor
  · rintro rfl
    obtain ⟨valid, found⟩ := (alone date).mp rfl
    exact ⟨⟨⟨valid, h.2⟩, rfl⟩, found⟩
  · rintro ⟨⟨valid, time⟩, found⟩
    have same := (alone d.date).mpr ⟨valid.1, found⟩
    rw [← same, ← time]

/-- The dates and times that a step by weekdays can come to: they show the same time of day on a
given weekday. -/
def OnWeekday (c : DateTime) (w : Weekday) (e : DateTime) : Prop :=
  e.Valid ∧ e.time = c.time ∧ e.date.weekday = w

theorem Valid.eq_next_iff (h : c.Valid) :
    d = c.next w ↔ c.OnWeekday w d ∧ 1 ≤ c.date.daysUntil d.date
      ∧ c.date.daysUntil d.date ≤ 7 := by
  refine (h.eq_on_date_iff fun _ => Date.eq_next_iff).trans ?_
  simp only [OnWeekday, and_assoc]

theorem Valid.eq_previous_iff (h : c.Valid) :
    d = c.previous w ↔ c.OnWeekday w d ∧ 1 ≤ d.date.daysUntil c.date
      ∧ d.date.daysUntil c.date ≤ 7 := by
  refine (h.eq_on_date_iff fun _ => Date.eq_previous_iff).trans ?_
  simp only [OnWeekday, and_assoc]

theorem Valid.isGreatest_onWeekday (h : c.Valid) {p : DateTime} (on : c.OnWeekday w p)
    (after : 0 ≤ p.date.daysUntil c.date) (near : p.date.daysUntil c.date < 7) :
    IsGreatest {e | c.OnWeekday w e ∧ e ≤ c} p := by
  obtain ⟨valid, time, named⟩ := on
  refine ⟨⟨⟨valid, time, named⟩, (valid.le_iff_daysUntil h time).mpr after⟩, ?_⟩
  rintro e ⟨⟨valid', time', named'⟩, notAfter⟩
  have days := (valid'.le_iff_daysUntil h time').mp notAfter
  have weeks := Date.weekday_eq_weekday_iff.mp (named'.trans named.symm)
  rw [valid'.le_iff_daysUntil valid (time'.trans time.symm)]
  unfold Date.daysUntil at *
  omega

theorem Valid.isLeast_onWeekday (h : c.Valid) {p : DateTime} (on : c.OnWeekday w p)
    (before : 0 ≤ c.date.daysUntil p.date) (near : c.date.daysUntil p.date < 7) :
    IsLeast {e | c.OnWeekday w e ∧ c ≤ e} p := by
  obtain ⟨valid, time, named⟩ := on
  refine ⟨⟨⟨valid, time, named⟩, (h.le_iff_daysUntil valid time.symm).mpr before⟩, ?_⟩
  rintro e ⟨⟨valid', time', named'⟩, notBefore⟩
  have days := (h.le_iff_daysUntil valid' time'.symm).mp notBefore
  have weeks := Date.weekday_eq_weekday_iff.mp (named.trans named'.symm)
  rw [valid.le_iff_daysUntil valid' (time.trans time'.symm)]
  unfold Date.daysUntil at *
  omega

/-- The next and the previous date of a weekday are the only ones within seven days after and before
a date, at the same time of day. A number of days moves the weekday on by as many. Going on to the
next one and back again leads to the last one that is not after the start, and going back and on
again to the first one that is not before it. -/
theorem Valid.weekday_steps (h : c.Valid) (w : Weekday) (n : Int) :
    (∀ e, e = c.next w ↔ c.OnWeekday w e ∧ 1 ≤ c.date.daysUntil e.date
          ∧ c.date.daysUntil e.date ≤ 7)
      ∧ (∀ e, e = c.previous w ↔ c.OnWeekday w e ∧ 1 ≤ e.date.daysUntil c.date
          ∧ e.date.daysUntil c.date ≤ 7)
      ∧ c.date.daysUntil (c.plus n .day).date = n
      ∧ ((c.plus n .day).date.weekday.number - c.date.weekday.number) % 7 = n % 7
      ∧ IsGreatest {e | c.OnWeekday w e ∧ e ≤ c} ((c.next w).previous w)
      ∧ IsLeast {e | c.OnWeekday w e ∧ c ≤ e} ((c.previous w).next w) := by
  have moved : c.date.daysUntil (c.plus n .day).date = n := by
    rw [h.plus_days]
    exact c.date.daysUntil_plusDays n
  refine ⟨fun _ => h.eq_next_iff, fun _ => h.eq_previous_iff, moved, ?_, ?_, ?_⟩
  · rw [Date.weekday_daysUntil, moved]
  · obtain ⟨valid, named, -⟩ := (c.date.next w).previous_spec w
    obtain ⟨after, near⟩ := c.date.previous_next w
    exact h.isGreatest_onWeekday ⟨⟨valid, h.2⟩, rfl, named⟩ after near
  · obtain ⟨valid, named, -⟩ := (c.date.previous w).next_spec w
    obtain ⟨before, near⟩ := c.date.next_previous w
    exact h.isLeast_onWeekday ⟨⟨valid, h.2⟩, rfl, named⟩ before near

theorem weekday_steps_over_new_year :
    Valid ⟨⟨-1, 12, 31⟩, ⟨23, 59, 59, 999⟩⟩
      ∧ OnWeekday ⟨⟨-1, 12, 31⟩, ⟨23, 59, 59, 999⟩⟩ .friday ⟨⟨0, 1, 7⟩, ⟨23, 59, 59, 999⟩⟩
      ∧ Date.daysUntil ⟨-1, 12, 31⟩ ⟨0, 1, 7⟩ ≤ 7
      ∧ OnWeekday ⟨⟨-1, 12, 31⟩, ⟨23, 59, 59, 999⟩⟩ .friday ⟨⟨-1, 12, 24⟩, ⟨23, 59, 59, 999⟩⟩
      ∧ (Date.weekday ⟨0, 12, 31⟩).number - (Date.weekday ⟨-1, 12, 31⟩).number = 2
      ∧ (2 : Int) % 7 = 366 % 7
      ∧ IsGreatest
        {e | OnWeekday ⟨⟨-1, 12, 31⟩, ⟨23, 59, 59, 999⟩⟩ .friday e
          ∧ e ≤ ⟨⟨-1, 12, 31⟩, ⟨23, 59, 59, 999⟩⟩}
        ⟨⟨-1, 12, 31⟩, ⟨23, 59, 59, 999⟩⟩ := by
  have valid : Valid ⟨⟨-1, 12, 31⟩, ⟨23, 59, 59, 999⟩⟩ := by decide
  have on : next ⟨⟨-1, 12, 31⟩, ⟨23, 59, 59, 999⟩⟩ .friday = ⟨⟨0, 1, 7⟩, ⟨23, 59, 59, 999⟩⟩ := by
    decide
  have back : previous ⟨⟨-1, 12, 31⟩, ⟨23, 59, 59, 999⟩⟩ .friday
      = ⟨⟨-1, 12, 24⟩, ⟨23, 59, 59, 999⟩⟩ := by
    decide
  have home : previous ⟨⟨0, 1, 7⟩, ⟨23, 59, 59, 999⟩⟩ .friday
      = ⟨⟨-1, 12, 31⟩, ⟨23, 59, 59, 999⟩⟩ := by
    decide
  have year : plus ⟨⟨-1, 12, 31⟩, ⟨23, 59, 59, 999⟩⟩ 366 .day
      = ⟨⟨0, 12, 31⟩, ⟨23, 59, 59, 999⟩⟩ := by
    decide
  have apart : (Date.weekday ⟨0, 12, 31⟩).number - (Date.weekday ⟨-1, 12, 31⟩).number = 2 := by
    decide
  obtain ⟨next, previous, -, advanced, last, -⟩ := valid.weekday_steps .friday 366
  obtain ⟨after, -, near⟩ := (next _).mp on.symm
  obtain ⟨before, -⟩ := (previous _).mp back.symm
  rw [year, apart] at advanced
  rw [on, home] at last
  exact ⟨valid, after, near, before, apart, advanced, last⟩

end DateTime

end Almanac
