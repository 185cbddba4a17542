import Almanac.Proofs.WallGaps
import Almanac.Zone.Basic

namespace Almanac

theorem newYearSecond_values : newYearSecond 2 = -62104060800 ∧ newYearSecond 3 = -62072524800
    ∧ newYearSecond 4 = -62040988800 ∧ newYearSecond 9997 = 253307692800
    ∧ newYearSecond 9998 = 253339228800 ∧ newYearSecond 9999 = 253370764800 := by
  decide

theorem monthLength_of_ne_two {month : Int} (h : month ≠ 2) (year other : Int) :
    monthLength year month = monthLength other month := by
  unfold monthLength
  rw [if_neg h, if_neg h]

namespace DateTime

theorem wallSecond_eq (c : DateTime) : c.wallSecond = c.epochMillis 0 / millisPerSecond :=
  rfl

theorem Valid.wallSecond_lt_newYearSecond_iff {c : DateTime} (h : c.Valid) (year : Int) :
    c.wallSecond < newYearSecond year ↔ c.date.year < year := by
  have day := h.1.epochDay_lt_newYear_iff year
  obtain ⟨low, high⟩ := h.2.millis_range
  rw [wallSecond_eq]
  unfold epochMillis newYearSecond secondsPerDay millisPerSecond
  unfold millisPerDay at *
  rw [← day]
  omega

theorem epochSecond_instant (c : DateTime) (offset : Int) :
    (c.instant offset).epochSecond = c.wallSecond - offset := by
  have millis := c.epochMillis_eq offset
  rw [wallSecond_eq]
  change c.epochMillis offset / millisPerSecond = _
  unfold millisPerSecond
  omega

theorem wallSecond_dateTime (i : Instant) (offset : Int) :
    (i.dateTime offset).wallSecond = i.epochSecond + offset := by
  have back := (i.dateTime offset).epochSecond_instant offset
  rw [Instant.instant_dateTime] at back
  omega

/-- The date of a lookup exists: only 29 February is missing in some years. -/
theorem Valid.lookup {c : DateTime} (h : c.Valid) : c.lookup.Valid := by
  obtain ⟨⟨first, last, low, high⟩, hour, minute, second, -⟩ := h
  refine ⟨⟨first, last, ?_⟩, hour, minute, second, by simp [DateTime.lookup]⟩
  obtain ⟨year, hy⟩ : ∃ year, c.lookup.date.year = year := ⟨_, rfl⟩
  have length := monthLength_range year c.date.month
  have day : c.lookup.date.day
      = if year ≠ c.date.year ∧ c.date.month = 2 ∧ 28 < c.date.day then 28 else c.date.day := by
    rw [← hy]
    rfl
  change 1 ≤ c.lookup.date.day ∧ c.lookup.date.day ≤ monthLength c.lookup.date.year c.date.month
  rw [day, hy]
  split
  · omega
  next kept =>
    refine ⟨low, ?_⟩
    by_cases same : year = c.date.year
    · rw [same]
      exact high
    · by_cases february : c.date.month = 2
      · omega
      · rw [monthLength_of_ne_two february year c.date.year]
        exact high

theorem lookup_year (c : DateTime) :
    c.lookup.date.year
      = if c.date.year < 2 then 2 else if 9998 < c.date.year then 9998 else c.date.year :=
  rfl

theorem lookup_year_range (c : DateTime) : 2 ≤ c.lookup.date.year ∧ c.lookup.date.year ≤ 9998 := by
  rw [lookup_year]
  repeat' split
  all_goals omega

/-- In the years for which offsets are known they are looked up for the time itself, to the
second. -/
theorem lookup_eq {c : DateTime} (low : 2 ≤ c.date.year) (high : c.date.year ≤ 9998) :
    c.lookup = ⟨c.date, { c.time with millisecond := 0 }⟩ := by
  have early : ¬ c.date.year < 2 := by omega
  have late : ¬ 9998 < c.date.year := by omega
  simp [lookup, early, late]

theorem wallSecond_lookup {c : DateTime} (h : c.Valid) (low : 2 ≤ c.date.year)
    (high : c.date.year ≤ 9998) : c.lookup.wallSecond = c.wallSecond := by
  obtain ⟨-, -, -, -, milli⟩ := h
  rw [wallSecond_eq, wallSecond_eq, lookup_eq low high]
  simp only [epochMillis, TimeOfDay.millis]
  unfold millisPerDay millisPerSecond
  omega

end DateTime

/-- The second of a lookup is the nearest one of the range in which offsets are looked up. -/
theorem Instant.epochSecond_lookup (i : Instant) :
    i.lookup.epochSecond = max (-62135510400) (min i.epochSecond 253402128000) := by
  have first : firstLookup = ⟨-62135510400000⟩ := by decide
  have last : lastLookup = ⟨253402128000000⟩ := by decide
  unfold lookup
  split
  next early =>
    rw [lt_iff, first] at early
    simp only [first, epochSecond, millisPerSecond] at *
    omega
  next early =>
    rw [lt_iff, first] at early
    split
    next late =>
      rw [lt_iff, last] at late
      simp only [last, epochSecond, millisPerSecond] at *
      omega
    next late =>
      rw [lt_iff, last] at late
      simp only [epochSecond, millisPerSecond] at *
      omega

/-- Around a date and time a zone has the offsets that its rules have for the seconds around the one
that is looked up. -/
structure Zone.Tracks (zone : Zone) (rules : ZoneRules) (c : DateTime) : Prop where
  clock : zone.clock = .ruled rules
  regular : rules.Regular
  valid : c.Valid
  near : ∀ i : Instant, c.wallSecond - 200000 ≤ i.epochSecond →
    i.epochSecond ≤ c.wallSecond + 200000 →
    zone.offsetAt i = rules.offsetAt (c.lookup.wallSecond + (i.epochSecond - c.wallSecond))

theorem Zone.tracks_of_regular {zone : Zone} {rules : ZoneRules} {c : DateTime}
    (clock : zone.clock = .ruled rules) (regular : rules.Regular) (valid : c.Valid)
    (known : c.date.year ≤ 9998 ∨ rules.yearly = none) : zone.Tracks rules c := by
  refine ⟨clock, regular, valid, fun i low high => ?_⟩
  have offset : zone.offsetAt i = rules.offsetAt i.lookup.epochSecond := by
    unfold offsetAt
    rw [clock]
  have lookup := i.epochSecond_lookup
  obtain ⟨y2, y3, y4, y9997, y9998, y9999⟩ := newYearSecond_values
  have shown := valid.wallSecond_lt_newYearSecond_iff
  have lookedUp := valid.lookup.wallSecond_lt_newYearSecond_iff
  have year := c.lookup_year
  rw [offset]
  by_cases early : c.date.year < 2
  · rw [if_pos early] at year
    have before := (lookedUp 3).mpr (by omega)
    have := (shown 2).mpr early
    exact (regular.offsetAt_of_early (by omega)).trans (regular.offsetAt_of_early (by omega)).symm
  · rw [if_neg early] at year
    by_cases late : 9998 < c.date.year
    · rw [if_pos late] at year
      have none := known.resolve_left (by omega)
      have after := mt (lookedUp 9998).mp (by omega)
      have := mt (shown 9999).mp (by omega)
      exact (regular.offsetAt_of_late none (by omega)).trans
        (regular.offsetAt_of_late none (by omega)).symm
    · have same := DateTime.wallSecond_lookup valid (by omega) (by omega)
      have := mt (shown 2).mp (by omega)
      have := (shown 9999).mpr (by omega)
      congr 1
      omega

end Almanac
