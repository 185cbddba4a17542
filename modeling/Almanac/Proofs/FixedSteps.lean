import Almanac.Proofs.Adjustments
import Mathlib

namespace Almanac

/-- The units that are always as long. -/
inductive FixedUnit
  | millisecond | second | hour | day | week
deriving DecidableEq

namespace FixedUnit

def unit : FixedUnit → TimeUnit
  | millisecond => .millisecond
  | second => .second
  | hour => .hour
  | day => .day
  | week => .week

/-- The milliseconds of a unit. -/
def length : FixedUnit → Int
  | millisecond => 1
  | second => 1000
  | hour => 60 * 60 * 1000
  | day => 24 * 60 * 60 * 1000
  | week => 7 * 24 * 60 * 60 * 1000

theorem span_unit (u : FixedUnit) : u.unit.span = .millis u.length := by
  cases u <;> rfl

end FixedUnit

namespace DateTime

variable {c : DateTime}

theorem plus_fixed (c : DateTime) (amount : Int) (u : FixedUnit) :
    c.plus amount u.unit = c.plusMillis (amount * u.length) := by
  unfold plus
  rw [u.span_unit]

theorem epochMillis_plus_fixed (c : DateTime) (amount offset : Int) (u : FixedUnit) :
    (c.plus amount u.unit).epochMillis offset = c.epochMillis offset + amount * u.length := by
  have moved := c.epochMillis_plusMillis (amount * u.length)
  rw [plus_fixed, epochMillis_eq _ offset, epochMillis_eq c offset, moved]
  omega

theorem Valid.minus_plus_fixed (h : c.Valid) (amount : Int) (u : FixedUnit) :
    (c.plus amount u.unit).minus amount u.unit = c := by
  have back : ((c.plus amount u.unit).minus amount u.unit).epochMillis 0 = c.epochMillis 0 := by
    unfold minus
    rw [epochMillis_plus_fixed, epochMillis_plus_fixed, Int.neg_mul]
    exact Int.add_neg_cancel_right _ _
  exact ((h.plus _ _).plus _ _).eq_of_epochMillis h back

end DateTime

namespace Instant

/-- A step from an instant, if every date and time on its way is checked as it is made. -/
def checkedPlus (i : Instant) (amount : Int) (unit : TimeUnit) : Except FieldFault Instant :=
  (i.dateTime 0).checked.bind fun c => (c.checkedPlus amount unit).map (·.instant 0)

theorem checkedPlus_eq (i : Instant) (amount : Int) (unit : TimeUnit) :
    i.checkedPlus amount unit = .ok (i.plus amount unit) := by
  have valid := i.valid_dateTime 0
  unfold checkedPlus
  rw [DateTime.checked_of_valid valid]
  change ((i.dateTime 0).checkedPlus amount unit).map _ = _
  rw [valid.checkedPlus_eq]
  rfl

/-- Going by the calendar and clock of UTC makes no difference to a step of a fixed length. -/
theorem plus_fixed (i : Instant) (amount : Int) (u : FixedUnit) :
    i.plus amount u.unit = ⟨i.epochMillis + amount * u.length⟩ := by
  refine congrArg Instant.mk ?_
  rw [DateTime.epochMillis_plus_fixed, epochMillis_shown]

theorem minus_plus_fixed (i : Instant) (amount : Int) (u : FixedUnit) :
    (i.plus amount u.unit).minus amount u.unit = i := by
  unfold minus
  rw [plus_fixed, plus_fixed, eq_iff, Int.neg_mul]
  exact Int.add_neg_cancel_right _ _

end Instant

/-- How far a clock is to be moved, in units of a fixed length. -/
structure ClockMove where
  amount : Int
  unit : FixedUnit
deriving DecidableEq

def ClockMove.millis (m : ClockMove) : Int :=
  m.amount * m.unit.length

namespace FixedClock

/-- The clock after moves that follow each other. -/
def advanceAll (clock : FixedClock) (moves : List ClockMove) : FixedClock :=
  moves.foldl (fun clock m => clock.advance m.amount m.unit.unit) clock

theorem epochMillis_advance (clock : FixedClock) (m : ClockMove) :
    (clock.advance m.amount m.unit.unit).instant.epochMillis
      = clock.instant.epochMillis + m.millis :=
  congrArg Instant.epochMillis (clock.instant.plus_fixed m.amount m.unit)

theorem epochMillis_advanceAll (clock : FixedClock) (moves : List ClockMove) :
    (clock.advanceAll moves).instant.epochMillis
      = clock.instant.epochMillis + (moves.map ClockMove.millis).sum := by
  induction moves generalizing clock with
  | nil => exact (Int.add_zero _).symm
  | cons m rest ih =>
    have moved := clock.epochMillis_advance m
    have later := ih (clock.advance m.amount m.unit.unit)
    rw [moved, Int.add_assoc] at later
    rwa [List.map_cons, List.sum_cons]

end FixedClock

/-- A step of a fixed length adds its milliseconds to a date and time and to an instant, and the
same step back takes them away again. Nothing on the way is refused. A clock that is moved by such
steps stands as far from its start as they come to together, whatever their order. -/
theorem FixedUnit.steps_add (u : FixedUnit) (amount offset : Int) (i : Instant) {c : DateTime}
    (h : c.Valid) (clock : FixedClock) {moves reordered : List ClockMove}
    (same : reordered.Perm moves) :
    c.checkedPlus amount u.unit = .ok (c.plus amount u.unit)
      ∧ (c.plus amount u.unit).epochMillis offset = c.epochMillis offset + amount * u.length
      ∧ (c.plus amount u.unit).checkedPlus (-amount) u.unit = .ok c
      ∧ (c.plus amount u.unit).minus amount u.unit = c
      ∧ i.checkedPlus amount u.unit = .ok (i.plus amount u.unit)
      ∧ i.plus amount u.unit = ⟨i.epochMillis + amount * u.length⟩
      ∧ (i.plus amount u.unit).minus amount u.unit = i
      ∧ (clock.advanceAll reordered).instant.epochMillis
        = clock.instant.epochMillis + (moves.map ClockMove.millis).sum := by
  have back := h.minus_plus_fixed amount u
  have madeBack := (h.plus amount u.unit).checkedPlus_eq (-amount) u.unit
  refine ⟨h.checkedPlus_eq _ _, c.epochMillis_plus_fixed _ _ u, madeBack.trans ?_, back,
    i.checkedPlus_eq _ _, i.plus_fixed _ u, i.minus_plus_fixed _ u, ?_⟩
  · exact congrArg Except.ok back
  · rw [clock.epochMillis_advanceAll, (same.map ClockMove.millis).sum_eq]

theorem FixedUnit.steps_add_over_new_year :
    DateTime.Valid ⟨⟨-1, 12, 31⟩, ⟨23, 59, 59, 999⟩⟩
      ∧ [⟨1, .day⟩, ⟨1500, .millisecond⟩].Perm [⟨1500, .millisecond⟩, (⟨1, .day⟩ : ClockMove)]
      ∧ DateTime.checkedPlus ⟨⟨-1, 12, 31⟩, ⟨23, 59, 59, 999⟩⟩ 1 .millisecond
        = .ok ⟨⟨0, 1, 1⟩, .midnight⟩
      ∧ DateTime.epochMillis ⟨⟨0, 1, 1⟩, .midnight⟩ 0
        = DateTime.epochMillis ⟨⟨-1, 12, 31⟩, ⟨23, 59, 59, 999⟩⟩ 0 + 1
      ∧ DateTime.minus ⟨⟨0, 1, 1⟩, .midnight⟩ 1 .millisecond
        = ⟨⟨-1, 12, 31⟩, ⟨23, 59, 59, 999⟩⟩
      ∧ Instant.checkedPlus ⟨-1⟩ 1 .millisecond = .ok .epoch
      ∧ Instant.epoch.minus 1 .millisecond = ⟨-1⟩
      ∧ (FixedClock.advanceAll ⟨.epoch⟩ [⟨1, .day⟩, ⟨1500, .millisecond⟩]).instant.epochMillis
        = 86401500 := by
  have valid : DateTime.Valid ⟨⟨-1, 12, 31⟩, ⟨23, 59, 59, 999⟩⟩ := by decide
  have same :
      [⟨1, .day⟩, ⟨1500, .millisecond⟩].Perm [⟨1500, .millisecond⟩, (⟨1, .day⟩ : ClockMove)] :=
    .swap _ _ []
  have landed : DateTime.plus ⟨⟨-1, 12, 31⟩, ⟨23, 59, 59, 999⟩⟩ 1 FixedUnit.millisecond.unit
      = ⟨⟨0, 1, 1⟩, .midnight⟩ := by decide
  obtain ⟨made, millis, -, back, madeInstant, instant, backInstant, clock⟩ :=
    FixedUnit.steps_add .millisecond 1 0 ⟨-1⟩ valid ⟨.epoch⟩ same
  rw [landed] at made millis back
  rw [instant] at madeInstant backInstant
  exact ⟨valid, same, made, millis, back, madeInstant, backInstant, clock⟩

end Almanac
