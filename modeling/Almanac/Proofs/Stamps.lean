import Almanac.Instant.Stamp
import Almanac.Proofs.LongYears
import Almanac.Proofs.NumberedDays

namespace Almanac

namespace Stamp

/-- A stamp that a clock can show. -/
structure Valid (s : Stamp) : Prop where
  date : s.date.Valid
  year : 1 ≤ s.date.year ∧ s.date.year ≤ 9999
  hour : 0 ≤ s.hour ∧ s.hour ≤ 23
  minute : 0 ≤ s.minute ∧ s.minute ≤ 59
  second : 0 ≤ s.second ∧ s.second ≤ 59
  microsecond : 0 ≤ s.microsecond ∧ s.microsecond ≤ 999999
  offset : ∀ micros, s.offsetMicros? = some micros → -microsPerDay < micros ∧ micros < microsPerDay

/-- The offset of the clock, if it is known, is one of whole seconds. -/
def InSeconds (s : Stamp) : Prop :=
  ∀ micros, s.offsetMicros? = some micros → 1000000 ∣ micros

/-- The exact time of a stamp: the microseconds since the start of 1970 in UTC. A clock of unknown
offset is taken to show UTC. -/
def epochMicros (s : Stamp) : Int :=
  s.wallMicros - epoch.wallMicros - s.offsetMicros?.getD 0

variable {s t : Stamp}

theorem wallMicros_epoch : epoch.wallMicros = 719163 * microsPerDay := by
  decide

theorem Valid.dateTime (h : s.Valid) : s.dateTime.Valid := by
  have micros := h.microsecond
  refine ⟨h.date, h.hour, h.minute, h.second, ?_, ?_⟩ <;> simp only [Stamp.dateTime] <;> omega

/-- The instant of a stamp is its exact time, rounded down to the millisecond. -/
theorem Valid.epochMillis_instant (h : s.Valid) (whole : s.InSeconds) :
    s.instant.epochMillis = s.epochMicros / 1000 := by
  have day := h.date.ordinal_eq
  have shown (offset : Int) : (s.dateTime.instant offset).epochMillis
      = (s.wallMicros - 719163 * microsPerDay - offset * 1000000) / 1000 := by
    simp only [DateTime.instant, DateTime.epochMillis, Stamp.dateTime, TimeOfDay.millis, wallMicros,
      day, millisPerDay, millisPerSecond, microsPerDay]
    omega
  unfold epochMicros instant
  rw [wallMicros_epoch]
  cases known : s.offsetMicros? with
  | none => exact shown 0
  | some micros =>
    obtain ⟨seconds, rfl⟩ := whole micros known
    have kept : wholeSeconds (1000000 * seconds) = seconds :=
      Int.mul_tdiv_cancel_left seconds (by decide)
    dsimp only [Option.getD_some]
    rw [kept, shown, Int.mul_comm seconds]

theorem plus?_eq_ite (s : Stamp) (lapse : Lapse) :
    s.plus? lapse =
      let wall := s.wallMicros + lapse.micros
      let time := wall % microsPerDay
      if 1 ≤ wall / microsPerDay ∧ wall / microsPerDay ≤ 3652059 then
        some ⟨.ofOrdinal (wall / microsPerDay), time / 3600000000, time / 60000000 % 60,
          time / 1000000 % 60, time % 1000000, s.offsetMicros?⟩
      else none := by
  have last : Date.ordinal ⟨9999, 12, 31⟩ = 3652059 := by decide
  unfold plus? Lapse.ofMicros?
  rw [last]
  dsimp only
  by_cases near : -999999999 ≤ (s.wallMicros + lapse.micros) / microsPerDay
      ∧ (s.wallMicros + lapse.micros) / microsPerDay ≤ 999999999
  · rw [dif_pos near]
  · rw [dif_neg near, if_neg (by omega)]

end Stamp

namespace Instant

/-- What a clock in UTC shows at an instant, in any year. -/
def shownStamp (i : Instant) : Stamp :=
  let c := i.dateTime 0
  ⟨c.date, c.time.hour, c.time.minute, c.time.second, c.time.millisecond * 1000, some 0⟩

variable {i : Instant}

theorem year_range_iff (i : Instant) :
    1 ≤ (i.dateTime 0).date.year ∧ (i.dateTime 0).date.year ≤ 9999
      ↔ -719162 ≤ i.epochMillis / millisPerDay ∧ i.epochMillis / millisPerDay ≤ 2932896 := by
  have day : (i.dateTime 0).date.epochDay = i.epochMillis / millisPerDay := by
    simp [dateTime, DateTime.ofEpochMillis, Date.epochDay_ofEpochDay]
  have valid := (i.valid_dateTime 0).1
  have low := valid.epochDay_lt_newYear_iff 1
  have high := valid.epochDay_lt_newYear_iff 10000
  rw [day, show Date.epochDay ⟨1, 1, 1⟩ = -719162 by decide] at low
  rw [day, show Date.epochDay ⟨10000, 1, 1⟩ = 2932897 by decide] at high
  omega

/-- So many milliseconds after the start of 1970, a clock of UTC shows the instant of that number,
if its date is one that stamps have. -/
theorem plus?_epoch (i : Instant) {lapse : Lapse} (h : lapse.micros = i.epochMillis * 1000) :
    Stamp.epoch.plus? lapse
      = if 1 ≤ (i.dateTime 0).date.year ∧ (i.dateTime 0).date.year ≤ 9999 then some i.shownStamp
        else none := by
  have day : (719163 * microsPerDay + i.epochMillis * 1000) / microsPerDay
      = i.epochMillis / millisPerDay + 719163 := by
    unfold microsPerDay millisPerDay
    omega
  have time : (719163 * microsPerDay + i.epochMillis * 1000) % microsPerDay
      = i.epochMillis % millisPerDay * 1000 := by
    unfold microsPerDay millisPerDay
    omega
  have window : 1 ≤ i.epochMillis / millisPerDay + 719163
        ∧ i.epochMillis / millisPerDay + 719163 ≤ 3652059
      ↔ 1 ≤ (i.dateTime 0).date.year ∧ (i.dateTime 0).date.year ≤ 9999 := by
    rw [i.year_range_iff]
    omega
  have shown : (⟨.ofOrdinal (i.epochMillis / millisPerDay + 719163),
      i.epochMillis % millisPerDay * 1000 / 3600000000,
      i.epochMillis % millisPerDay * 1000 / 60000000 % 60,
      i.epochMillis % millisPerDay * 1000 / 1000000 % 60,
      i.epochMillis % millisPerDay * 1000 % 1000000, some 0⟩ : Stamp) = i.shownStamp := by
    rw [Date.ofOrdinal_eq_ofEpochDay, Int.add_sub_cancel]
    simp only [shownStamp, dateTime, DateTime.ofEpochMillis, TimeOfDay.ofMillis, Int.zero_mul,
      Int.add_zero, Stamp.mk.injEq, true_and, and_true]
    omega
  rw [Stamp.plus?_eq_ite, Stamp.wallMicros_epoch, h]
  dsimp only
  rw [day, time]
  exact if_congr window (congrArg some shown) rfl

/-- The stamp that is found as far from the start of 1970 as an instant is what a clock of UTC shows
then, and there is one in just the years that stamps have. -/
theorem stamp_eq_ite (i : Instant) :
    i.stamp = if 1 ≤ (i.dateTime 0).date.year ∧ (i.dateTime 0).date.year ≤ 9999
      then .ok i.shownStamp
      else .error (if TooLong (i.dateTime 0).date.year then .longYear else .noStamp i) := by
  have lapse : i.epochMillis * 1000 / microsPerDay = i.epochMillis / millisPerDay := by
    unfold microsPerDay millisPerDay
    omega
  have window := i.year_range_iff
  have shown : (Lapse.ofMicros? (i.epochMillis * 1000)).bind Stamp.epoch.plus?
      = if 1 ≤ (i.dateTime 0).date.year ∧ (i.dateTime 0).date.year ≤ 9999 then some i.shownStamp
        else none := by
    unfold Lapse.ofMicros?
    by_cases near : -999999999 ≤ i.epochMillis * 1000 / microsPerDay
        ∧ i.epochMillis * 1000 / microsPerDay ≤ 999999999
    · rw [dif_pos near, Option.bind_some, i.plus?_epoch rfl]
    · rw [dif_neg near, if_neg (by omega)]
      rfl
  unfold stamp
  rw [shown]
  by_cases within : 1 ≤ (i.dateTime 0).date.year ∧ (i.dateTime 0).date.year ≤ 9999
  · rw [if_pos within, if_pos within]
  · rw [if_neg within, if_neg within]
    dsimp only
    unfold isoText
    by_cases long : TooLong (i.dateTime 0).date.year
    · rw [written_of_tooLong long, if_pos long]
    · rw [written_of_short long, if_neg long]

theorem dateTime_shownStamp (i : Instant) : i.shownStamp.dateTime = i.dateTime 0 := by
  simp only [Stamp.dateTime, shownStamp, Int.mul_ediv_cancel _ (show (1000 : Int) ≠ 0 by decide)]

theorem instant_shownStamp (i : Instant) : i.shownStamp.instant = i := by
  change i.shownStamp.dateTime.instant 0 = i
  rw [dateTime_shownStamp, instant_dateTime]

theorem valid_shownStamp (h : 1 ≤ (i.dateTime 0).date.year ∧ (i.dateTime 0).date.year ≤ 9999) :
    i.shownStamp.Valid := by
  obtain ⟨date, hour, minute, second, low, high⟩ := i.valid_dateTime 0
  refine ⟨date, h, hour, minute, second, ?_, fun micros known => ?_⟩
  · simp only [shownStamp]
    omega
  · cases known
    decide

theorem epochMicros_shownStamp (i : Instant) : i.shownStamp.epochMicros = i.epochMillis * 1000 := by
  have day : (i.dateTime 0).date.ordinal = _ := (i.valid_dateTime 0).1.ordinal_eq
  have shown := i.epochMillis_shown 0
  unfold DateTime.epochMillis TimeOfDay.millis millisPerDay at shown
  unfold Stamp.epochMicros
  rw [Stamp.wallMicros_epoch]
  simp only [Stamp.wallMicros, shownStamp, day, microsPerDay, Option.getD_some]
  omega

/-- Instants have stamps in just the years from 1 to 9999. Any other year is told as out of range, but
for one of so many digits that the instant cannot be named. The stamp shows exactly the time of the
instant, and leads back to it. Of any stamp whose offset is one of whole seconds the instant is the
exact time rounded down to the millisecond, before 1970 too, so that it never goes back while the
time goes on. -/
theorem stamps_exact :
    (∀ i : Instant,
      ((∃ s, i.stamp = .ok s)
          ↔ 1 ≤ (i.dateTime 0).date.year ∧ (i.dateTime 0).date.year ≤ 9999)
        ∧ ((¬ ∃ s, i.stamp = .ok s) →
          i.stamp = .error (if TooLong (i.dateTime 0).date.year then .longYear else .noStamp i)
            ∧ (Failure.noStamp i).category? = some .range ∧ Failure.longYear.category? = none)
        ∧ ∀ s, i.stamp = .ok s → s.Valid ∧ s.offsetMicros? = some 0
          ∧ s.epochMicros = i.epochMillis * 1000 ∧ s.instant = i)
      ∧ ∀ s : Stamp, s.Valid → s.InSeconds →
        s.dateTime.checked = .ok s.dateTime ∧ s.instant.epochMillis = s.epochMicros / 1000
          ∧ ∀ t : Stamp, t.Valid → t.InSeconds → s.epochMicros ≤ t.epochMicros →
            s.instant.epochMillis ≤ t.instant.epochMillis := by
  refine ⟨fun i => ?_, fun s valid whole => ?_⟩
  · rw [i.stamp_eq_ite]
    by_cases within : 1 ≤ (i.dateTime 0).date.year ∧ (i.dateTime 0).date.year ≤ 9999
    · rw [if_pos within]
      refine ⟨⟨fun _ => within, fun _ => ⟨_, rfl⟩⟩, fun none_ => absurd ⟨_, rfl⟩ none_,
        fun s same => ?_⟩
      cases same
      exact ⟨valid_shownStamp within, rfl, i.epochMicros_shownStamp, i.instant_shownStamp⟩
    · rw [if_neg within]
      refine ⟨⟨fun made => ?_, fun within' => absurd within' within⟩, fun _ => ⟨rfl, rfl, rfl⟩,
        fun s same => nomatch same⟩
      obtain ⟨s, same⟩ := made
      cases same
  · refine ⟨DateTime.checked_of_valid valid.dateTime, valid.epochMillis_instant whole,
      fun t valid' whole' le => ?_⟩
    rw [valid.epochMillis_instant whole, valid'.epochMillis_instant whole']
    exact Int.ediv_le_ediv (by decide) le

/-- The last microsecond before 1970, on a clock that is two hours ahead, lies in the millisecond
before 1970. That one has a stamp again, but the last millisecond before the year 1 has none. -/
theorem stamps_exact_before_1970 :
    ∃ s : Stamp, s = ⟨⟨1970, 1, 1⟩, 1, 59, 59, 999999, some 7200000000⟩
      ∧ s.Valid ∧ s.InSeconds ∧ s.epochMicros = -1 ∧ s.instant = ⟨-1⟩
      ∧ (∃ t, Instant.stamp ⟨-1⟩ = .ok t ∧ t.epochMicros = -1000 ∧ t.instant = ⟨-1⟩)
      ∧ Instant.stamp ⟨-62135596800001⟩ = .error (.noStamp ⟨-62135596800001⟩) := by
  obtain ⟨s, given⟩ : ∃ s : Stamp, s = ⟨⟨1970, 1, 1⟩, 1, 59, 59, 999999, some 7200000000⟩ := ⟨_, rfl⟩
  obtain ⟨instants, stamps⟩ := stamps_exact
  have valid : s.Valid := by
    rw [given]
    exact ⟨by decide, by decide, by decide, by decide, by decide, by decide,
      fun micros known => by cases known; decide⟩
  have whole : s.InSeconds := by
    rw [given]
    rintro micros known
    cases known
    exact ⟨7200, rfl⟩
  have micros : s.epochMicros = -1 := by
    rw [given]
    decide
  have floored : s.instant.epochMillis = s.epochMicros / 1000 := (stamps s valid whole).2.1
  rw [micros] at floored
  obtain ⟨made, -, back⟩ := instants ⟨-1⟩
  obtain ⟨t, stamped⟩ := made.mpr (by decide)
  obtain ⟨-, -, exact_, again⟩ := back t stamped
  obtain ⟨early, refused, -⟩ := instants ⟨-62135596800001⟩
  have year : (Instant.dateTime ⟨-62135596800001⟩ 0).date.year = 0 := by decide
  have short : ¬ TooLong (Instant.dateTime ⟨-62135596800001⟩ 0).date.year := by
    rw [year]
    decide
  have told := (refused (mt early.mp (by decide))).1
  rw [if_neg short] at told
  exact ⟨s, given, valid, whole, micros, Instant.eq_iff.mpr floored, ⟨t, stamped, exact_, again⟩,
    told⟩

/-- The start of a year of 4302 digits has no stamp, and is not told as out of range. -/
theorem stamp_farAway :
    ¬ (1 ≤ (farAway.dateTime 0).date.year ∧ (farAway.dateTime 0).date.year ≤ 9999)
      ∧ farAway.stamp = .error .longYear ∧ Failure.longYear.category? ≠ some .range := by
  have wide := tooLong_farAway.wide
  have outside : ¬ (1 ≤ (farAway.dateTime 0).date.year ∧ (farAway.dateTime 0).date.year ≤ 9999) := by
    omega
  refine ⟨outside, ?_, nofun⟩
  rw [stamp_eq_ite, if_neg outside, if_pos tooLong_farAway]

end Instant

end Almanac
