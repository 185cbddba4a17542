import Almanac.Proofs.YearRange

namespace Almanac

theorem newYearSecond_mono {a b : Int} (h : a ≤ b) : newYearSecond a ≤ newYearSecond b := by
  have days := Date.epochDay_newYear_mono h
  unfold newYearSecond secondsPerDay
  omega

theorem newYearSecond_10000 : newYearSecond 10000 = 253402300800 := by
  decide

namespace ZoneRules

variable {z : ZoneRules}

/-- From 9998 on clocks are left alone while a year begins, and they always have the same offset
then. -/
theorem Regular.exists_offset_newYear (h : z.Regular) :
    ∃ offset, ∀ year, 9998 ≤ year → ∀ second, newYearSecond year - fiveDays ≤ second →
      second < newYearSecond year + fiveDays → z.offsetAt second = offset := by
  obtain ⟨-, -, -, y9997, y9998, -⟩ := newYearSecond_values
  cases yearly : z.yearly with
  | none =>
    refine ⟨_, fun year late second low _ => h.offsetAt_of_late yearly ?_⟩
    have after := newYearSecond_mono late
    unfold fiveDays at low
    omega
  | some r =>
    -- A year begins between the late change of the year before and its own early one.
    obtain ⟨proper, last, hl, -⟩ := h.tail r yearly
    obtain ⟨early, late, alternates, start, offset, same⟩ := proper.exists_alternates
    refine ⟨offset, fun year after second low high => ?_⟩
    have near := alternates.neighbors_over_newYear (year - 1)
    have begins := alternates.newYear_le (year - 1)
    have long := alternates.early_late (year - 1)
    have stop := alternates.late_newYear (year - 1)
    have next := start year
    have listed := (h.range last (List.mem_of_getLast? hl)).2
    have mono := newYearSecond_mono (show 9997 ≤ year - 1 by omega)
    rw [Int.sub_add_cancel] at near stop
    unfold fiveDays at *
    rw [← same (year - 1)]
    exact h.offsetAt_of_neighbors yearly hl near (by omega) (by omega) (by omega)

end ZoneRules

/-- Neither 9998 nor 9999 has a 29 February. -/
theorem Date.epochDay_in_9998 {d : Date} (last : d.year = 9999) :
    epochDay ⟨9998, d.month, d.day⟩ = d.epochDay - 365 := by
  unfold epochDay
  rw [last]
  dsimp only
  split <;> omega

/-- Dates and times of the last year are looked up a year earlier. -/
theorem DateTime.Valid.wallSecond_lookup_of_last {c : DateTime} (h : c.Valid)
    (last : c.date.year = 9999) : c.lookup.wallSecond = c.wallSecond - 365 * secondsPerDay := by
  have date : c.lookup.date = ⟨9998, c.date.month, c.date.day⟩ := by
    obtain ⟨⟨-, -, -, high⟩, -⟩ := h
    have known : ¬ (c.date.month = 2 ∧ 28 < c.date.day) := by
      rintro ⟨february, leap⟩
      have short : monthLength 9999 2 = 28 := by decide
      rw [last, february, short] at high
      omega
    unfold DateTime.lookup
    simp [last, known]
  have time : c.lookup.time = { c.time with millisecond := 0 } := rfl
  obtain ⟨-, -, -, -, milli⟩ := h
  rw [wallSecond_eq, wallSecond_eq, epochMillis, epochMillis, date, time,
    Date.epochDay_in_9998 last]
  simp only [TimeOfDay.millis]
  unfold millisPerDay millisPerSecond secondsPerDay
  omega

namespace Zone

variable {z : Zone} {i : Instant}

theorem instant_dateTime_of_fixed {offset : Int} (clock : z.clock = .fixed offset) (i : Instant)
    (preferred? : Option Int) : z.instant (z.dateTime i) preferred? = i := by
  unfold Zone.instant dateTime offsetAt
  rw [clock]
  exact Instant.instant_dateTime _ _

/-- Where an offset stays in effect around the second that is looked up, no other one is found. -/
theorem instant_dateTime_of_still {rules : ZoneRules} (clock : z.clock = .ruled rules)
    (regular : rules.Regular)
    (still : ∀ second, (z.dateTime i).lookup.wallSecond - 200000 ≤ second →
      second ≤ (z.dateTime i).lookup.wallSecond + 200000 → rules.offsetAt second = z.offsetAt i)
    (preferred? : Option Int) : z.instant (z.dateTime i) preferred? = i := by
  obtain ⟨second, found, low, high⟩ :=
    instant_eq_offsetAt clock regular (z.dateTime i) preferred?
  rw [found, still second low high]
  exact Instant.instant_dateTime _ _

/-- What the clocks show at the start of the year 0 leads back to it by whatever offset. -/
theorem Ordinary.instant_startOfYearZero (h : z.Ordinary) (preferred? : Option Int) :
    z.instant (z.dateTime .startOfYearZero) preferred? = .startOfYearZero := by
  rcases h with ⟨offset, clock, -⟩ | ⟨rules, clock, regular⟩
  · exact instant_dateTime_of_fixed clock _ preferred?
  obtain ⟨y2, y3, y4, -⟩ := newYearSecond_values
  have initial : z.offsetAt .startOfYearZero = rules.initial := by
    unfold offsetAt
    rw [clock]
    exact regular.offsetAt_of_early (by rw [y4]; decide)
  have range := regular.offset_range (newYearSecond 2)
  rw [regular.offsetAt_of_early (by omega)] at range
  have valid : (z.dateTime .startOfYearZero).Valid := Instant.valid_dateTime _ _
  have wall : (z.dateTime .startOfYearZero).wallSecond = -62167219200 + rules.initial := by
    unfold dateTime
    rw [DateTime.wallSecond_dateTime, initial]
    rfl
  have early := (valid.wallSecond_lt_newYearSecond_iff 2).mp (by omega)
  have year := (z.dateTime .startOfYearZero).lookup_year
  rw [if_pos early] at year
  have before := (valid.lookup.wallSecond_lt_newYearSecond_iff 3).mpr (by omega)
  refine instant_dateTime_of_still clock regular (fun second _ high => ?_) preferred?
  rw [initial, regular.offsetAt_of_early (by omega)]

/-- What the clocks show on the last day of 9999 leads back to it by whatever offset. -/
theorem Ordinary.instant_lastDayOfYear9999 (h : z.Ordinary) (preferred? : Option Int) :
    z.instant (z.dateTime .lastDayOfYear9999) preferred? = .lastDayOfYear9999 := by
  rcases h with ⟨offset, clock, -⟩ | ⟨rules, clock, regular⟩
  · exact instant_dateTime_of_fixed clock _ preferred?
  obtain ⟨offset, newYears⟩ := regular.exists_offset_newYear
  obtain ⟨-, -, -, -, -, y9999⟩ := newYearSecond_values
  have y10000 := newYearSecond_10000
  have shown : z.offsetAt .lastDayOfYear9999 = offset := by
    unfold offsetAt
    rw [clock]
    dsimp only
    rw [Instant.epochSecond_lookup]
    refine newYears 10000 (by decide) _ ?_ ?_ <;> rw [y10000] <;> decide
  have range := regular.offset_range (newYearSecond 9999)
  rw [newYears 9999 (by decide) _ (by unfold fiveDays; omega) (by unfold fiveDays; omega)] at range
  have valid : (z.dateTime .lastDayOfYear9999).Valid := Instant.valid_dateTime _ _
  have wall : (z.dateTime .lastDayOfYear9999).wallSecond = 253402214400 + offset := by
    unfold dateTime
    rw [DateTime.wallSecond_dateTime, shown]
    rfl
  have low := mt (valid.wallSecond_lt_newYearSecond_iff 9999).mpr (by omega)
  have high := (valid.wallSecond_lt_newYearSecond_iff 10000).mp (by omega)
  have lookedUp := valid.wallSecond_lookup_of_last (by omega)
  unfold secondsPerDay at lookedUp
  refine instant_dateTime_of_still clock regular (fun second low high => ?_) preferred?
  rw [shown]
  exact newYears 9999 (by decide) second (by unfold fiveDays; omega) (by unfold fiveDays; omega)

end Zone

end Almanac
