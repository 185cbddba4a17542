import Almanac.Proofs.ValidSteps

namespace Almanac

theorem monthLength?_of_range (year : Int) {month : Int} (first : 1 ≤ month) (last : month ≤ 12) :
    monthLength? year month = some (monthLength year month) := by
  unfold monthLength? monthSlot?
  by_cases february : month = 2
  · rw [if_pos february, february]
  · rw [if_neg february, if_pos ⟨first, last⟩, Option.map_some, if_neg february]

theorem Date.Valid.plusMonths_zero {d : Date} (h : d.Valid) : d.plusMonths 0 = d := by
  obtain ⟨year, month, day⟩ := d
  obtain ⟨first, last, low, high⟩ := h
  dsimp only at first last low high
  have years : (year * 12 + month - 1 + 0) / 12 = year := by omega
  have months : (year * 12 + month - 1 + 0) % 12 + 1 = month := by omega
  unfold Date.plusMonths
  dsimp only
  rw [years, months, if_pos high]

namespace DateTime

/-- The clock is moved and what it then shows is checked. Nothing is made anew where it stands
still. -/
def checkedPlusMillis (c : DateTime) (millis : Int) : Except FieldFault DateTime :=
  if millis = 0 then .ok c else (c.plusMillis millis).checked

/-- The table of the months is asked for the last day of the landing month, and the date that is
found with it is checked. -/
def checkedPlusMonths (c : DateTime) (months : Int) : Except FieldFault DateTime :=
  if months = 0 then .ok c
  else
    let count := c.date.year * 12 + c.date.month - 1 + months
    match monthLength? (count / 12) (count % 12 + 1) with
    | none => .error (.month (count % 12 + 1))
    | some last => checked ⟨⟨count / 12, count % 12 + 1, min c.date.day last⟩, c.time⟩

def checkedPlus (c : DateTime) (amount : Int) (unit : TimeUnit) : Except FieldFault DateTime :=
  match unit.span with
  | .millis count => c.checkedPlusMillis (amount * count)
  | .months count => c.checkedPlusMonths (amount * count)

variable {c : DateTime}

theorem Valid.plusMillis_zero (h : c.Valid) : c.plusMillis 0 = c := by
  unfold DateTime.plusMillis
  rw [Int.add_zero]
  exact ofEpochMillis_epochMillis h 0

theorem Valid.plusMonths_zero (h : c.Valid) : c.plusMonths 0 = c := by
  unfold DateTime.plusMonths
  rw [h.1.plusMonths_zero]

theorem Valid.checkedPlusMillis_eq (h : c.Valid) (millis : Int) :
    c.checkedPlusMillis millis = .ok (c.plusMillis millis) := by
  unfold checkedPlusMillis
  split
  next still => rw [still, h.plusMillis_zero]
  next => exact checked_of_valid (valid_ofEpochMillis _ 0)

theorem Valid.checkedPlusMonths_eq (h : c.Valid) (months : Int) :
    c.checkedPlusMonths months = .ok (c.plusMonths months) := by
  unfold checkedPlusMonths
  split
  next still => rw [still, h.plusMonths_zero]
  next =>
    have clamped (day last : Int) : min day last = if day ≤ last then day else last := by omega
    dsimp only
    rw [monthLength?_of_range _ (by omega) (by omega)]
    dsimp only
    rw [clamped]
    exact checked_of_valid (h.plusMonths months)

theorem Valid.checkedPlus_eq (h : c.Valid) (amount : Int) (unit : TimeUnit) :
    c.checkedPlus amount unit = .ok (c.plus amount unit) := by
  unfold checkedPlus DateTime.plus
  cases unit.span with
  | millis count => exact h.checkedPlusMillis_eq _
  | months count => exact h.checkedPlusMonths_eq _

/-- Days are added to the date alone: the clock shows the same time on the day it comes to. -/
theorem Valid.plus_days (h : c.Valid) (days : Int) :
    c.plus days .day = ⟨c.date.plusDays days, c.time⟩ := by
  have moved : c.epochMillis 0 + days * millisPerDay
      = epochMillis ⟨c.date.plusDays days, c.time⟩ 0 := by
    unfold epochMillis
    dsimp only
    rw [Date.epochDay_plusDays, Int.add_mul]
    omega
  -- A day has the span of its milliseconds, which the clock is moved by.
  change ofEpochMillis (c.epochMillis 0 + days * millisPerDay) 0 = _
  rw [moved]
  exact ofEpochMillis_epochMillis (h.plusDays days) 0

end DateTime

/-- A step from one date and time to another. -/
inductive Adjustment
  | plus (amount : Int) (unit : TimeUnit)
  | minus (amount : Int) (unit : TimeUnit)
  | previous (w : Weekday)
  | next (w : Weekday)
  | startOfDay
  | firstOfMonth
  | firstOfNextMonth
  | firstOfYear
  | firstOfNextYear
  | atTime (time : TimeOfDay)

namespace Adjustment

/-- What a step comes to. -/
def result (c : DateTime) : Adjustment → Except FieldFault DateTime
  | plus amount unit => .ok (c.plus amount unit)
  | minus amount unit => .ok (c.minus amount unit)
  | previous w => .ok (c.previous w)
  | next w => .ok (c.next w)
  | startOfDay => .ok c.startOfDay
  | firstOfMonth => .ok c.firstOfMonth
  | firstOfNextMonth => .ok c.firstOfNextMonth
  | firstOfYear => .ok c.firstOfYear
  | firstOfNextYear => .ok c.firstOfNextYear
  | atTime time => c.atTime time

/-- What a step comes to if every date and time on its way is checked as it is made. -/
def checkedResult (c : DateTime) : Adjustment → Except FieldFault DateTime
  | plus amount unit => c.checkedPlus amount unit
  | minus amount unit => c.checkedPlus (-amount) unit
  | previous w =>
    let days := (c.date.weekday.number - w.number) % 7
    c.checkedPlus (-(if days = 0 then 7 else days)) .day
  | next w =>
    let days := (w.number - c.date.weekday.number) % 7
    c.checkedPlus (if days = 0 then 7 else days) .day
  | startOfDay => c.startOfDay.checked
  | firstOfMonth => c.firstOfMonth.checked
  | firstOfNextMonth => c.firstOfMonth.checked.bind (·.checkedPlusMonths 1)
  | firstOfYear => c.firstOfYear.checked
  | firstOfNextYear => c.firstOfNextYear.checked
  | atTime time => c.atTime time

variable {c d : DateTime} {a : Adjustment}

theorem valid_of_result (h : c.Valid) (came : a.result c = .ok d) : d.Valid := by
  cases a with
  | atTime time =>
    obtain ⟨valid, rfl⟩ := DateTime.valid_of_checked came
    exact valid
  | plus amount unit =>
    cases came
    exact h.plus amount unit
  | minus amount unit =>
    cases came
    exact h.plus (-amount) unit
  | previous w | next w =>
    cases came
    exact h.plusDays _
  | startOfDay =>
    cases came
    exact h.startOfDay
  | firstOfMonth =>
    cases came
    exact h.firstOfMonth
  | firstOfNextMonth =>
    cases came
    exact h.firstOfMonth.plusMonths 1
  | firstOfYear | firstOfNextYear =>
    cases came
    exact h.newYear _

/-- Nothing but a time that a clock does not show is refused. -/
theorem refused_iff (h : c.Valid) :
    (∃ fault, a.result c = .error fault) ↔ ∃ time, a = atTime time ∧ ¬ time.Valid := by
  constructor
  · rintro ⟨fault, refused⟩
    cases a with
    | atTime time =>
      refine ⟨time, rfl, fun valid => ?_⟩
      have made : c.atTime time = .ok ⟨c.date, time⟩ := DateTime.checked_of_valid ⟨h.1, valid⟩
      cases made.symm.trans refused
    | _ => cases refused
  · rintro ⟨time, rfl, invalid⟩
    cases came : (atTime time).result c with
    | error fault => exact ⟨fault, rfl⟩
    | ok d =>
      obtain ⟨valid, -⟩ := DateTime.valid_of_checked came
      exact absurd valid.2 invalid

/-- From a date and time that is valid, nothing on the way of a step is refused that the step does
not refuse itself. -/
theorem checkedResult_eq (h : c.Valid) (a : Adjustment) : a.checkedResult c = a.result c := by
  cases a with
  | atTime time => rfl
  | plus amount unit => exact h.checkedPlus_eq amount unit
  | minus amount unit => exact h.checkedPlus_eq (-amount) unit
  | previous w | next w =>
    unfold checkedResult
    dsimp only
    rw [h.checkedPlus_eq, h.plus_days]
    rfl
  | startOfDay => exact DateTime.checked_of_valid h.startOfDay
  | firstOfMonth => exact DateTime.checked_of_valid h.firstOfMonth
  | firstOfNextMonth =>
    have first := h.firstOfMonth
    unfold checkedResult
    rw [DateTime.checked_of_valid first]
    exact first.checkedPlusMonths_eq 1
  | firstOfYear | firstOfNextYear => exact DateTime.checked_of_valid (h.newYear _)

end Adjustment

/-- A step as it was taken. -/
structure AdjustmentEvent where
  before : DateTime
  step : Adjustment
  result : Except FieldFault DateTime

/-- What takes place when steps follow each other, with every date and time checked as it is made.
A refused step leaves the date and time as it was. -/
def adjustmentHistory : DateTime → List Adjustment → List AdjustmentEvent
  | _, [] => []
  | c, a :: rest =>
    ⟨c, a, a.checkedResult c⟩ :: adjustmentHistory ((a.checkedResult c).toOption.getD c) rest

variable {start : DateTime} {steps : List Adjustment} {event : AdjustmentEvent}

theorem Adjustment.valid_left (h : start.Valid) (a : Adjustment) :
    ((a.checkedResult start).toOption.getD start).Valid := by
  rw [a.checkedResult_eq h]
  cases came : a.result start with
  | error fault => exact h
  | ok d => exact a.valid_of_result h came

theorem of_mem_adjustmentHistory (h : start.Valid) (taken : event ∈ adjustmentHistory start steps) :
    event.before.Valid ∧ event.result = event.step.result event.before := by
  induction steps generalizing start with
  | nil => cases taken
  | cons a rest ih =>
    rcases List.mem_cons.mp taken with rfl | later
    · exact ⟨h, a.checkedResult_eq h⟩
    · exact ih (a.valid_left h) later

theorem map_step_adjustmentHistory (start : DateTime) (steps : List Adjustment) :
    (adjustmentHistory start steps).map AdjustmentEvent.step = steps := by
  induction steps generalizing start with
  | nil => rfl
  | cons a rest ih => exact congrArg (a :: ·) (ih _)

/-- However many steps have been taken from a valid date and time, each starts from a valid one and
comes to a valid one, unless it sets a time that a clock does not show. -/
theorem adjustmentHistory_valid (h : start.Valid) (steps : List Adjustment) :
    (adjustmentHistory start steps).map AdjustmentEvent.step = steps
      ∧ ∀ event ∈ adjustmentHistory start steps,
        event.before.Valid
          ∧ event.result = event.step.result event.before
          ∧ (∀ d, event.result = .ok d → d.Valid)
          ∧ ((∃ fault, event.result = .error fault)
            ↔ ∃ time, event.step = .atTime time ∧ ¬ time.Valid) := by
  refine ⟨map_step_adjustmentHistory start steps, fun event taken => ?_⟩
  obtain ⟨valid, result⟩ := of_mem_adjustmentHistory h taken
  refine ⟨valid, result, fun d came => ?_, ?_⟩
  · rw [result] at came
    exact event.step.valid_of_result valid came
  · rw [result]
    exact Adjustment.refused_iff valid

theorem adjustmentHistory_valid_on_leap_day :
    DateTime.Valid ⟨⟨0, 2, 29⟩, .midnight⟩
      ∧ ∃ event ∈ adjustmentHistory ⟨⟨0, 2, 29⟩, .midnight⟩
          [.minus 1 .year, .atTime ⟨24, 0, 0, 0⟩, .next .sunday],
        event.before = ⟨⟨-1, 2, 28⟩, .midnight⟩
          ∧ event.before.Valid
          ∧ ∃ fault, event.result = .error fault := by
  have valid : DateTime.Valid ⟨⟨0, 2, 29⟩, .midnight⟩ := by decide
  let refused : AdjustmentEvent :=
    ⟨⟨⟨-1, 2, 28⟩, .midnight⟩, .atTime ⟨24, 0, 0, 0⟩, .error (.hour 24)⟩
  have taken : refused ∈ adjustmentHistory ⟨⟨0, 2, 29⟩, .midnight⟩
      [.minus 1 .year, .atTime ⟨24, 0, 0, 0⟩, .next .sunday] :=
    .tail _ (.head _)
  obtain ⟨before, -, -, refusal⟩ := (adjustmentHistory_valid valid _).2 refused taken
  exact ⟨valid, refused, taken, rfl, before, refusal.mpr ⟨_, rfl, by decide⟩⟩

end Almanac
