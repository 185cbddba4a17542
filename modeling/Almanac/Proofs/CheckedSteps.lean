import Almanac.Proofs.EvaluatedYears

namespace Almanac

/-- Why an evaluation stops that checks every date and time it comes to. -/
inductive Halt
  | failure (cause : Failure)
  | field (fault : FieldFault)
  | lookup (c : DateTime)
deriving DecidableEq

namespace DateTime

/-- A date and time is only made of fields that are in range. -/
def made (c : DateTime) : Except Halt DateTime :=
  c.checked.mapError .field

/-- The tables of zones are only asked for dates and times of the years 1 to 9999. -/
def asked (c : DateTime) : Except Halt DateTime :=
  if c.Valid ∧ 1 ≤ c.date.year ∧ c.date.year ≤ 9999 then .ok c else .error (.lookup c)

variable {c : DateTime}

theorem Valid.made (h : c.Valid) : c.made = .ok c := by
  unfold DateTime.made
  rw [checked_of_valid h]
  rfl

theorem Valid.asked (h : c.Valid) (low : newYearSecond 1 ≤ c.wallSecond)
    (high : c.wallSecond < newYearSecond 10000) : c.asked = .ok c := by
  have first := mt (h.wallSecond_lt_newYearSecond_iff 1).mpr (by omega)
  have last := (h.wallSecond_lt_newYearSecond_iff 10000).mp high
  exact if_pos ⟨h, by omega, by omega⟩

theorem wallSecond_plus (c : DateTime) (seconds : Int) :
    (c.plus seconds .second).wallSecond = c.wallSecond + seconds := by
  have millis : (c.plus seconds .second).epochMillis 0
      = c.epochMillis 0 + seconds * millisPerSecond := c.epochMillis_plusMillis _
  rw [wallSecond_eq, wallSecond_eq, millis]
  unfold millisPerSecond
  omega

/-- Around the date and time of a lookup there are two days to spare. -/
theorem Valid.asked_lookup_plus (h : c.Valid) {seconds : Int} (low : -172800 ≤ seconds)
    (high : seconds ≤ 172800) :
    (c.lookup.plus seconds .second).asked = .ok (c.lookup.plus seconds .second) := by
  obtain ⟨first, last⟩ := c.lookup_year_range
  have after := mt (h.lookup.wallSecond_lt_newYearSecond_iff 2).mp (by omega)
  have before := (h.lookup.wallSecond_lt_newYearSecond_iff 9999).mpr (by omega)
  have years : newYearSecond 1 + 172800 ≤ newYearSecond 2
      ∧ newYearSecond 9999 + 172800 ≤ newYearSecond 10000 := by decide
  apply (h.lookup.plus seconds .second).asked
  · rw [wallSecond_plus]
    omega
  · rw [wallSecond_plus]
    omega

theorem Valid.asked_lookup (h : c.Valid) : c.lookup.asked = .ok c.lookup := by
  obtain ⟨first, last⟩ := c.lookup_year_range
  exact if_pos ⟨h.lookup, by omega, by omega⟩

end DateTime

/-- An instant that is looked up stays in the years 1 to 9999 on clocks less than a day from UTC. -/
theorem Instant.asked_lookup (i : Instant) {offset : Int} (low : -86400 ≤ offset)
    (high : offset ≤ 86400) :
    (i.lookup.dateTime offset).asked = .ok (i.lookup.dateTime offset) := by
  have wall := DateTime.wallSecond_dateTime i.lookup offset
  have second := i.epochSecond_lookup
  have years : newYearSecond 1 = -62135596800 ∧ newYearSecond 10000 = 253402300800 := by decide
  apply (i.lookup.valid_dateTime offset).asked
  · omega
  · omega

namespace Zone

/-- The offset of a zone's clocks. A table is asked for the time in UTC and answers for the time on
those clocks. -/
def checkedOffsetAt (z : Zone) (i : Instant) : Except Halt Int :=
  match z.clock with
  | .fixed offset => .ok offset
  | .ruled rules => do
    let _ ← (i.lookup.dateTime 0).asked
    let offset := rules.offsetAt i.lookup.epochSecond
    let _ ← (i.lookup.dateTime offset).asked
    return offset

def checkedDateTime (z : Zone) (i : Instant) : Except Halt DateTime := do
  let offset ← z.checkedOffsetAt i
  (i.dateTime offset).made

/-- The instant at which a zone's clocks show a date and time. A table is asked for it, for the time
in UTC, and where the clocks jump over it for the days before and after and the time it is moved
to. -/
def checkedInstant (z : Zone) (c : DateTime) (preferred? : Option Int) : Except Halt Instant :=
  match z.clock with
  | .fixed offset => .ok (c.instant offset)
  | .ruled rules => do
    let probe ← c.lookup.asked
    let _ ← (probe.plus (-rules.offsetAtWall probe.wallSecond) .second).asked
    if rules.offsetsAtWall probe.wallSecond = [] then
      let _ ← (probe.plus (-secondsPerDay) .second).asked
      let _ ← (probe.plus secondsPerDay .second).asked
      let _ ← (probe.plus (rules.jumpAround probe.wallSecond) .second).asked
    return z.instant c preferred?

def checkedLand (z : Zone) (c : DateTime) (offset : Int) : Except Halt Instant :=
  match c.withinYears with
  | .error failure => .error (.failure failure)
  | .ok c => z.checkedInstant c (some offset)

variable {z : Zone} {c : DateTime}

theorem checkedOffsetAt_eq {rules : ZoneRules} (clock : z.clock = .ruled rules)
    (near : rules.WithinDay) (i : Instant) : z.checkedOffsetAt i = .ok (z.offsetAt i) := by
  have range := near.offsetAt_range i.lookup.epochSecond
  unfold checkedOffsetAt offsetAt
  rw [clock]
  dsimp only
  rw [i.asked_lookup (by decide) (by decide), i.asked_lookup (by omega) (by omega)]
  rfl

theorem Ordinary.checkedOffsetAt_eq (h : z.Ordinary) (i : Instant) :
    z.checkedOffsetAt i = .ok (z.offsetAt i) := by
  rcases h with ⟨offset, clock, -⟩ | ⟨rules, clock, regular⟩
  · unfold checkedOffsetAt offsetAt
    rw [clock]
  · exact Zone.checkedOffsetAt_eq clock regular.withinDay i

theorem checkedDateTime_of_offset {i : Instant} (h : z.checkedOffsetAt i = .ok (z.offsetAt i)) :
    z.checkedDateTime i = .ok (z.dateTime i) := by
  have valid : (z.dateTime i).Valid := i.valid_dateTime _
  unfold checkedDateTime
  rw [h]
  exact valid.made

theorem Ordinary.checkedDateTime_eq (h : z.Ordinary) (i : Instant) :
    z.checkedDateTime i = .ok (z.dateTime i) :=
  checkedDateTime_of_offset (h.checkedOffsetAt_eq i)

theorem Ordinary.checkedInstant_eq (h : z.Ordinary) (valid : c.Valid) (preferred? : Option Int) :
    z.checkedInstant c preferred? = .ok (z.instant c preferred?) := by
  unfold checkedInstant
  rcases h with ⟨offset, clock, -⟩ | ⟨rules, clock, regular⟩
  · rw [clock]
    unfold instant
    rw [clock]
  · obtain ⟨wall, shown⟩ : ∃ wall, c.lookup.wallSecond = wall := ⟨_, rfl⟩
    have near := regular.withinDay
    have utc := near.offsetAtWall_range wall
    have before := near.offsetAtWall_range (wall - secondsPerDay)
    have after := near.offsetAtWall_range (wall + secondsPerDay)
    have jump : rules.jumpAround wall
        = rules.offsetAtWall (wall + secondsPerDay) - rules.offsetAtWall (wall - secondsPerDay) := rfl
    rw [clock]
    dsimp only
    rw [valid.asked_lookup]
    dsimp only [bind, Except.bind]
    rw [shown, valid.asked_lookup_plus (by omega) (by omega)]
    dsimp only
    split
    · rw [valid.asked_lookup_plus (by decide) (by decide),
        valid.asked_lookup_plus (by decide) (by decide),
        valid.asked_lookup_plus (by omega) (by omega)]
      rfl
    · rfl

theorem Ordinary.checkedLand_eq (h : z.Ordinary) (valid : c.Valid) (offset : Int) :
    z.checkedLand c offset = (z.land c offset).mapError .failure := by
  unfold checkedLand land
  cases within : c.withinYears with
  | error failure => rfl
  | ok d =>
    obtain ⟨-, rfl⟩ := DateTime.short_of_withinYears within
    exact h.checkedInstant_eq valid _

end Zone

namespace Anchor

/-- The date and time of an anchor, where every step on the way to it is made as a date and time. -/
def checkedResolve (a : Anchor) (present : DateTime) (zone : Zone) : Except Halt DateTime :=
  match a with
  | now => .ok present
  | min | distantPast => zone.checkedDateTime .startOfYearZero
  | max | distantFuture => zone.checkedDateTime .lastDayOfYear9999
  | morning => { present with time := ⟨9, 0, 0, 0⟩ : DateTime }.made
  | midnight => { present with time := .midnight : DateTime }.made
  | noon => { present with time := ⟨12, 0, 0, 0⟩ : DateTime }.made
  | today => present.startOfDay.made
  | tomorrow => present.startOfDay.made.bind fun day => (day.plus 1 .day).made
  | yesterday => present.startOfDay.made.bind fun day => (day.plus (-1) .day).made
  | dayAfterTomorrow => present.startOfDay.made.bind fun day => (day.plus 2 .day).made
  | dayBeforeYesterday => present.startOfDay.made.bind fun day => (day.plus (-2) .day).made
  | beginningMonth => present.startOfDay.made.bind fun day => day.firstOfMonth.made
  | endMonth =>
    present.startOfDay.made.bind fun day =>
      day.firstOfMonth.made.bind fun first => (first.plusMonths 1).made
  | beginningYear => present.startOfDay.made.bind fun day => day.firstOfYear.made
  | endYear => present.startOfDay.made.bind fun day => day.firstOfNextYear.made
  | beginningWeek => present.startOfDay.made.bind fun day => (day.previous .sunday).made
  | endWeek => present.startOfDay.made.bind fun day => (day.next .sunday).made
  | nextMonth => (present.plus 1 .month).made
  | lastMonth => (present.plus (-1) .month).made
  | nextYear => (present.plus 1 .year).made
  | lastYear => (present.plus (-1) .year).made

theorem checkedResolve_eq (a : Anchor) {present : DateTime} (h : present.Valid) {zone : Zone}
    (ordinary : zone.Ordinary) : a.checkedResolve present zone = .ok (a.resolve present zone) := by
  have valid := a.valid_resolve h zone
  have day : present.startOfDay.made = .ok present.startOfDay := h.startOfDay.made
  cases a
  case now => rfl
  case min | distantPast | max | distantFuture => exact ordinary.checkedDateTime_eq _
  case morning | midnight | noon | today | nextMonth | lastMonth | nextYear | lastYear =>
    exact valid.made
  case endMonth =>
    have first := h.startOfDay.firstOfMonth
    unfold checkedResolve
    rw [day]
    dsimp only [Except.bind]
    rw [first.made]
    exact valid.made
  all_goals
    unfold checkedResolve
    rw [day]
    exact valid.made

end Anchor

end Almanac
