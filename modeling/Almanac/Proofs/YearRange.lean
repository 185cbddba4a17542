import Almanac.Proofs.WallGaps
import Almanac.Proofs.ZoneTable
import Almanac.Proofs.LocalTime

namespace Almanac

/-- Years are no shorter than 365 days. -/
theorem Date.Valid.year_le {d e : Date} (hd : d.Valid) (he : e.Valid) {n : Int} (positive : 0 ≤ n)
    (near : e.epochDay ≤ d.epochDay + 365 * n) : e.year ≤ d.year + n + 1 := by
  by_contra far
  have before := (hd.epochDay_lt_newYear_iff (d.year + 1)).mpr (by omega)
  have after := mt (he.epochDay_lt_newYear_iff (d.year + n + 2)).mp (by omega)
  have leap := leapDaysUntil_mono (show d.year ≤ d.year + n + 1 by omega)
  rw [epochDay_newYear, Int.add_sub_cancel] at before
  rw [epochDay_newYear, show d.year + n + 2 - 1 = d.year + n + 1 by omega] at after
  omega

namespace DateTime

theorem Valid.year_le {c d : DateTime} (hc : c.Valid) (hd : d.Valid) {n : Int} (positive : 0 ≤ n)
    (near : d.epochMillis 0 ≤ c.epochMillis 0 + 365 * n * millisPerDay) :
    d.date.year ≤ c.date.year + n + 1 := by
  obtain ⟨low, high⟩ := hc.2.millis_range
  obtain ⟨low', high'⟩ := hd.2.millis_range
  refine hc.1.year_le hd.1 positive ?_
  unfold epochMillis at near
  unfold millisPerDay at *
  omega

/-- Steps of fixed length and steps of the calendar change the year by at most their number, and
one more. -/
theorem Valid.year_plus {c : DateTime} (h : c.Valid) {amount n : Int} (low : -n ≤ amount)
    (high : amount ≤ n) (unit : TimeUnit) :
    c.date.year - n - 1 ≤ (c.plus amount unit).date.year
      ∧ (c.plus amount unit).date.year ≤ c.date.year + n + 1 := by
  have moved (millis : Int) (within : -(7 * n * millisPerDay) ≤ millis)
      (within' : millis ≤ 7 * n * millisPerDay) :
      c.date.year - n - 1 ≤ (c.plusMillis millis).date.year
        ∧ (c.plusMillis millis).date.year ≤ c.date.year + n + 1 := by
    have valid : (c.plusMillis millis).Valid := valid_ofEpochMillis _ 0
    have shifted := c.epochMillis_plusMillis millis
    unfold millisPerDay at within within'
    have up := h.year_le valid (n := n) (by omega) (by unfold millisPerDay; omega)
    have down := valid.year_le h (n := n) (by omega) (by unfold millisPerDay; omega)
    omega
  obtain ⟨⟨first, last, -⟩, -⟩ := h
  unfold DateTime.plus
  cases unit
  case month | year =>
    simp only [TimeUnit.span, DateTime.plusMonths, Date.plusMonths]
    omega
  all_goals
    simp only [TimeUnit.span]
    refine moved _ ?_ ?_ <;> simp only [millisPerSecond, millisPerHour, millisPerDay] <;> omega

end DateTime

/-- Clocks that are less than 1000000000 days from UTC show years that are near each other. -/
theorem Instant.year_near (i : Instant) {offset offset' : Int}
    (near : offset.natAbs < 86400000000000) (near' : offset'.natAbs < 86400000000000) :
    (i.dateTime offset').date.year.natAbs ≤ (i.dateTime offset).date.year.natAbs + 6000001 := by
  have valid := i.valid_dateTime offset
  have valid' := i.valid_dateTime offset'
  have millis := i.epochMillis_shown offset
  have millis' := i.epochMillis_shown offset'
  rw [DateTime.epochMillis_eq] at millis millis'
  have up := valid.year_le valid' (n := 6000000) (by omega) (by unfold millisPerDay; omega)
  have down := valid'.year_le valid (n := 6000000) (by omega) (by unfold millisPerDay; omega)
  omega

namespace Zone

variable {z : Zone} {c : DateTime}

/-- The instant that is found for a date and time is the one at which a clock shows it that has the
offset of some second around the one that is looked up. -/
theorem instant_eq_offsetAt {rules : ZoneRules} (clock : z.clock = .ruled rules)
    (regular : rules.Regular) (c : DateTime) (preferred? : Option Int) :
    ∃ second, z.instant c preferred? = c.instant (rules.offsetAt second)
      ∧ c.lookup.wallSecond - 200000 ≤ second ∧ second ≤ c.lookup.wallSecond + 200000 := by
  have listed {offset : Int} (mem : offset ∈ rules.offsetsAtWall c.lookup.wallSecond) :
      ∃ second, c.instant offset = c.instant (rules.offsetAt second)
        ∧ c.lookup.wallSecond - 200000 ≤ second ∧ second ≤ c.lookup.wallSecond + 200000 := by
    have shown := ZoneRules.mem_offsetsAtWall.mp mem
    have range := regular.offset_range (c.lookup.wallSecond - offset)
    rw [shown] at range
    exact ⟨c.lookup.wallSecond - offset, by rw [shown], by omega, by omega⟩
  cases offsets : rules.offsetsAtWall c.lookup.wallSecond with
  | nil =>
    obtain ⟨second, before, after, jump, low, high⟩ := regular.exists_jump offsets
    have old := jump.earlier (second - 1) (by unfold fiveDays; omega) (by omega)
    have range := regular.offset_range (second - 1)
    have day := jump.day
    unfold secondsPerDay at day
    rw [old] at range
    refine ⟨second - 1, ?_, by omega, by omega⟩
    rw [instant_of_jump clock regular offsets jump low high, old]
  | cons first rest =>
    rw [offsets] at listed
    have largest := listed (ZoneRules.largest_spec first rest).1
    unfold instant
    rw [clock]
    dsimp only
    rw [offsets]
    cases preferred? with
    | none => exact largest
    | some preferred =>
      by_cases mem : preferred ∈ first :: rest
      · simp only [if_pos mem]
        exact listed mem
      · simp only [if_neg mem]
        exact largest

end Zone

end Almanac
