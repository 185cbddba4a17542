import Almanac.Proofs.CheckedSteps

namespace Almanac

namespace DateTime

variable {c : DateTime}

theorem asked_eq_ok_iff :
    c.asked = .ok c ↔ c.Valid ∧ 1 ≤ c.date.year ∧ c.date.year ≤ 9999 := by
  unfold asked
  split
  next known => exact iff_of_true rfl known
  next unknown => exact iff_of_false nofun unknown

theorem plus_plus_second (c : DateTime) (m n : Int) :
    (c.plus m .second).plus n .second = c.plus (m + n) .second := by
  change ofEpochMillis ((c.plusMillis (m * 1000)).epochMillis 0 + n * 1000) 0 = _
  rw [epochMillis_plusMillis, Int.add_assoc, ← Int.add_mul]
  rfl

theorem plus_day (c : DateTime) (n : Int) :
    c.plus n .day = c.plus (n * secondsPerDay) .second := by
  change c.plusMillis (n * 86400000) = c.plusMillis (n * 86400 * 1000)
  rw [Int.mul_assoc]
  rfl

theorem wallSecond_plus_day (c : DateTime) (n : Int) :
    (c.plus n .day).wallSecond = c.wallSecond + n * secondsPerDay := by
  rw [plus_day, wallSecond_plus]

theorem Valid.asked_lookup_day (h : c.Valid) {n : Int} (near : n = -1 ∨ n = 1) :
    (c.lookup.plus n .day).asked = .ok (c.lookup.plus n .day) := by
  rw [plus_day]
  unfold secondsPerDay
  exact h.asked_lookup_plus (by omega) (by omega)

theorem Valid.plus_second_eq_iff (h : c.Valid) (n : Int) : c.plus n .second = c ↔ n = 0 := by
  constructor
  · intro same
    have wall := c.wallSecond_plus n
    rw [same] at wall
    omega
  · rintro rfl
    change ofEpochMillis (c.epochMillis 0 + 0) 0 = c
    rw [Int.add_zero, ofEpochMillis_epochMillis h]

end DateTime

namespace ZoneRules

/-- The time in UTC at which clocks first show a date and time. -/
def askedUtc (z : ZoneRules) (wall : DateTime) : Except Halt DateTime :=
  (wall.plus (-z.offsetAtWall wall.wallSecond) .second).asked

/-- What clocks show at a time in UTC. -/
def askedWall (z : ZoneRules) (utc : DateTime) : Except Halt DateTime :=
  (utc.plus (z.offsetAt utc.wallSecond) .second).asked

/-- Whether clocks ever show a date and time: it stays the same when it is taken to UTC and back. -/
def askedShown (z : ZoneRules) (wall : DateTime) : Except Halt Bool := do
  let utc ← z.askedUtc wall
  let back ← z.askedWall utc
  return back = wall

/-- A date and time that clocks jump over, moved by what their offset grows from the day before to
the day after. -/
def askedMoved (z : ZoneRules) (wall : DateTime) : Except Halt DateTime := do
  let before ← (wall.plus (-1) .day).asked
  let after ← (wall.plus 1 .day).asked
  (wall.plus (z.offsetAtWall after.wallSecond - z.offsetAtWall before.wallSecond) .second).asked

variable {z : ZoneRules} {c : DateTime}

namespace WithinDay

/-- Clocks show the date and time of a lookup just where the rules have an offset for it. -/
theorem askedShown_lookup (h : z.WithinDay) (valid : c.Valid) :
    z.askedShown c.lookup = .ok (decide (z.offsetsAtWall c.lookup.wallSecond ≠ [])) := by
  obtain ⟨wall, shown⟩ : ∃ wall, c.lookup.wallSecond = wall := ⟨_, rfl⟩
  have first := h.offsetAtWall_range wall
  have then_ := h.offsetAt_range (wall - z.offsetAtWall wall)
  have utc : z.askedUtc c.lookup = .ok (c.lookup.plus (-z.offsetAtWall wall) .second) := by
    unfold askedUtc
    rw [shown]
    exact valid.asked_lookup_plus (by omega) (by omega)
  have second : (c.lookup.plus (-z.offsetAtWall wall) .second).wallSecond
      = wall - z.offsetAtWall wall := by
    rw [DateTime.wallSecond_plus, shown]
    rfl
  have back : z.askedWall (c.lookup.plus (-z.offsetAtWall wall) .second)
      = .ok (c.lookup.plus (-z.offsetAtWall wall + z.offsetAt (wall - z.offsetAtWall wall))
        .second) := by
    unfold askedWall
    rw [second, DateTime.plus_plus_second]
    exact valid.asked_lookup_plus (by omega) (by omega)
  have same := valid.lookup.plus_second_eq_iff
    (-z.offsetAtWall wall + z.offsetAt (wall - z.offsetAtWall wall))
  have seen := z.offsetsAtWall_ne_nil_iff wall
  unfold askedShown
  rw [utc]
  dsimp only [bind, Except.bind]
  rw [back, shown]
  refine congrArg Except.ok (decide_eq_decide.mpr ?_)
  rw [same, seen]
  omega

/-- A day before and after the date and time of a lookup, and where it is moved to, are dates and
times that tables are asked for. -/
theorem askedMoved_lookup (h : z.WithinDay) (valid : c.Valid) :
    z.askedMoved c.lookup = .ok (c.lookup.plus (z.jumpAround c.lookup.wallSecond) .second) := by
  obtain ⟨wall, shown⟩ : ∃ wall, c.lookup.wallSecond = wall := ⟨_, rfl⟩
  have before := h.offsetAtWall_range (wall - secondsPerDay)
  have after := h.offsetAtWall_range (wall + secondsPerDay)
  have jump : z.jumpAround wall
      = z.offsetAtWall (wall + secondsPerDay) - z.offsetAtWall (wall - secondsPerDay) := rfl
  have earlier : (c.lookup.plus (-1) .day).wallSecond = wall - secondsPerDay := by
    rw [DateTime.wallSecond_plus_day, shown]
    rfl
  have later : (c.lookup.plus 1 .day).wallSecond = wall + secondsPerDay := by
    rw [DateTime.wallSecond_plus_day, shown]
    rfl
  unfold askedMoved
  rw [valid.asked_lookup_day (.inl rfl)]
  dsimp only [bind, Except.bind]
  rw [valid.asked_lookup_day (.inr rfl)]
  dsimp only
  rw [earlier, later, shown, ← jump]
  exact valid.asked_lookup_plus (by omega) (by omega)

end WithinDay

end ZoneRules

namespace Zone

/-- The instant at which a zone's clocks show a date and time, found step by step: the tables are
asked for every date and time on the way. -/
def askedInstant (z : Zone) (c : DateTime) (preferred? : Option Int) : Except Halt Instant :=
  match z.clock with
  | .fixed offset => .ok (c.instant offset)
  | .ruled rules => do
    let probe ← c.lookup.asked
    if ← rules.askedShown probe then
      let first := rules.offsetAtWall probe.wallSecond
      match preferred? with
      | none => return c.instant first
      | some preferred =>
        return c.instant
          (if preferred ∈ rules.offsetsAtWall probe.wallSecond then preferred else first)
    else
      let moved ← rules.askedMoved probe
      let jump := moved.wallSecond - probe.wallSecond
      return ⟨c.epochMillis (rules.offsetAtWall moved.wallSecond) + jump * millisPerSecond⟩

variable {z : Zone} {rules : ZoneRules} {c : DateTime}

theorem askedInstant_eq (clock : z.clock = .ruled rules) (near : rules.WithinDay) (valid : c.Valid)
    (preferred? : Option Int) :
    z.askedInstant c preferred? = .ok (z.instant c preferred?) := by
  have shown := near.askedShown_lookup valid
  unfold askedInstant instant
  rw [clock]
  dsimp only
  rw [valid.asked_lookup]
  dsimp only [bind, Except.bind]
  rw [shown]
  dsimp only
  cases seen : rules.offsetsAtWall c.lookup.wallSecond with
  | nil =>
    have moved := c.lookup.wallSecond_plus (rules.jumpAround c.lookup.wallSecond)
    have length : (c.lookup.plus (rules.jumpAround c.lookup.wallSecond) .second).wallSecond
        - c.lookup.wallSecond = rules.jumpAround c.lookup.wallSecond := by
      omega
    rw [near.askedMoved_lookup valid]
    simp only [ne_eq, not_true_eq_false, decide_false, Bool.false_eq_true, if_false, length]
    rw [moved]
    rfl
  | cons first rest =>
    have earliest : rules.offsetAtWall c.lookup.wallSecond = ZoneRules.largest first rest := by
      unfold ZoneRules.offsetAtWall
      rw [seen]
    rw [earliest]
    cases preferred? <;> rfl

/-- The zones that callers can get are less than a day from UTC where their clocks change. -/
theorem Available.withinDay (h : z.Available) (clock : z.clock = .ruled rules) : rules.WithinDay := by
  rcases h.ordinary with ⟨offset, fixed, -⟩ | ⟨rules', same, regular⟩
  · rw [clock] at fixed
    cases fixed
  · rw [clock] at same
    cases same
    exact regular.withinDay

/-- Where a zone's clocks are always less than a day from UTC, whatever their changes are, every
instant and every date and time has an answer. A lookup is made for a date that exists, the instant
that is looked up falls in the years 1 to 9999 on the clocks, and so do the days around a date and
time. -/
theorem lookups_answer (clock : z.clock = .ruled rules) (near : rules.WithinDay) (i : Instant)
    (valid : c.Valid) (preferred? : Option Int) :
    z.checkedOffsetAt i = .ok (z.offsetAt i)
      ∧ z.checkedDateTime i = .ok (z.dateTime i)
      ∧ z.askedInstant c preferred? = .ok (z.instant c preferred?)
      ∧ (c.lookup.Valid ∧ 2 ≤ c.lookup.date.year ∧ c.lookup.date.year ≤ 9998)
      ∧ ∀ d ∈ [i.lookup.dateTime 0, i.lookup.dateTime (z.offsetAt i), c.lookup.plus (-1) .day,
          c.lookup.plus 1 .day],
        d.Valid ∧ 1 ≤ d.date.year ∧ d.date.year ≤ 9999 := by
  have offset := checkedOffsetAt_eq clock near i
  have range : -86400 < z.offsetAt i ∧ z.offsetAt i < 86400 := by
    have range := near.offsetAt_range i.lookup.epochSecond
    unfold offsetAt
    rw [clock]
    exact range
  refine ⟨offset, checkedDateTime_of_offset offset, askedInstant_eq clock near valid preferred?,
    ⟨valid.lookup, c.lookup_year_range⟩, ?_⟩
  simp only [List.forall_mem_cons, ← DateTime.asked_eq_ok_iff]
  refine ⟨?_, ?_, ?_, ?_, nofun⟩
  · exact i.asked_lookup (by decide) (by decide)
  · exact i.asked_lookup (by omega) (by omega)
  · exact valid.asked_lookup_day (.inl rfl)
  · exact valid.asked_lookup_day (.inr rfl)

/-- The leap day of the year 10000 is looked up as 28 February 9998. -/
theorem lookups_answer_on_leap_day :
    ∃ helsinki : Zone, named? "Europe/Helsinki".toList = some helsinki
      ∧ helsinki.clock = .ruled helsinkiRules ∧ helsinkiRules.WithinDay
      ∧ DateTime.Valid ⟨⟨10000, 2, 29⟩, ⟨12, 0, 0, 0⟩⟩
      ∧ helsinki.checkedOffsetAt ⟨10 ^ 20⟩ = .ok 7200
      ∧ helsinki.askedInstant ⟨⟨10000, 2, 29⟩, ⟨12, 0, 0, 0⟩⟩ (some 10800)
        = .ok ⟨253407434400000⟩ := by
  have named : named? "Europe/Helsinki".toList = some ⟨"Europe/Helsinki", .ruled helsinkiRules⟩ := by
    decide +kernel
  have clock : Zone.clock ⟨"Europe/Helsinki", .ruled helsinkiRules⟩ = .ruled helsinkiRules := rfl
  have near := (Available.named named).withinDay clock
  have valid : DateTime.Valid ⟨⟨10000, 2, 29⟩, ⟨12, 0, 0, 0⟩⟩ := by decide
  obtain ⟨offset, -, instant, -⟩ := lookups_answer clock near ⟨10 ^ 20⟩ valid (some 10800)
  refine ⟨_, named, clock, near, valid, offset.trans ?_, instant.trans ?_⟩
  · exact congrArg Except.ok (by decide +kernel)
  · exact congrArg Except.ok (by decide +kernel)

end Zone

end Almanac
