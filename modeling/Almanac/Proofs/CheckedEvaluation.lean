import Almanac.Proofs.CheckedSteps
import Almanac.Proofs.ExpressionReading

namespace Almanac

/-- The instant of a literal, as it is found with every date and time checked. Of the fields that
are read from a text it is the text that is refused. -/
def Literal.checkedInstant (l : Literal) (text : Text) (zone : Zone) (now : Instant) :
    Except Halt Instant :=
  match l with
  | instant c offset =>
    match c.checked with
    | .error fault => .error (.failure (.invalidDate text fault))
    | .ok c =>
      match offset.total? with
      | none => .error (.failure (.invalidOffset text))
      | some seconds => .ok (c.instant seconds)
  | dateTime c =>
    match c.checked with
    | .error fault => .error (.failure (.invalidDate text fault))
    | .ok c => zone.checkedInstant c none
  | timeOfDay time => do
    let today ← zone.checkedDateTime now
    match today.atTime time with
    | .error fault => .error (.failure (.invalidTime text fault))
    | .ok c => zone.checkedInstant c none
  | wideYear => .error (.failure (.wideYear text))

/-- The instant of an expression, as it is found with every date and time checked. -/
def Expression.checkedInstant (e : Expression) (zone : Zone) (now : Instant) : Except Halt Instant :=
  match e with
  | literal text value => value.checkedInstant text zone now
  | anchor value => do
    let present ← zone.checkedDateTime now
    let offset ← zone.checkedOffsetAt now
    let c ← value.checkedResolve present zone
    zone.checkedLand c offset
  | fromNow value => do
    let present ← zone.checkedDateTime now
    let offset ← zone.checkedOffsetAt now
    let c ← (value.addTo present).made
    zone.checkedLand c offset
  | sum base value => do
    let i ← base.checkedInstant zone now
    let c ← zone.checkedDateTime i
    let offset ← zone.checkedOffsetAt i
    let d ← (value.addTo c).made
    zone.checkedLand d offset

/-- The instant that a text names, as it is found with every date and time checked. -/
def checkedEvaluate (text? : Option Text) (zone : Zone) (now : Instant) : Except Halt Instant :=
  match text? with
  | none => .error (.failure .blankText)
  | some text =>
    match trimSymbols text.symbols with
    | [] => .error (.failure .blankText)
    | body =>
      match Expression.read body with
      | .error failure => .error (.failure failure)
      | .ok e => e.checkedInstant zone now

variable {zone : Zone} {now : Instant}

theorem Literal.checkedInstant_eq (l : Literal) (text : Text) (ordinary : zone.Ordinary) :
    l.checkedInstant text zone now = (l.toInstant text zone now).mapError .failure := by
  unfold checkedInstant toInstant
  cases l with
  | instant c offset =>
    dsimp only
    cases c.checked with
    | error fault => rfl
    | ok d =>
      dsimp only
      cases offset.total? <;> rfl
  | dateTime c =>
    dsimp only
    cases passed : c.checked with
    | error fault => rfl
    | ok d =>
      obtain ⟨valid, rfl⟩ := DateTime.valid_of_checked passed
      exact ordinary.checkedInstant_eq valid none
  | timeOfDay time =>
    dsimp only
    rw [ordinary.checkedDateTime_eq]
    dsimp only [bind, Except.bind]
    cases passed : (zone.dateTime now).atTime time with
    | error fault => rfl
    | ok d =>
      obtain ⟨valid, rfl⟩ := DateTime.valid_of_checked passed
      exact ordinary.checkedInstant_eq valid none
  | wideYear => rfl

/-- No check fails: whatever is computed on the way to an instant is a date and time, and one that
the tables of the zone know of where they are asked. -/
theorem Expression.checkedInstant_eq (e : Expression) (ordinary : zone.Ordinary) :
    e.checkedInstant zone now = (e.toInstant zone now).mapError .failure := by
  have present : (zone.dateTime now).Valid := now.valid_dateTime _
  induction e with
  | literal text l => exact l.checkedInstant_eq text ordinary
  | anchor a =>
    unfold checkedInstant toInstant
    rw [ordinary.checkedDateTime_eq, ordinary.checkedOffsetAt_eq]
    dsimp only [bind, Except.bind]
    rw [a.checkedResolve_eq present ordinary]
    exact ordinary.checkedLand_eq (a.valid_resolve present zone) _
  | fromNow d =>
    have valid : (d.addTo (zone.dateTime now)).Valid := present.plus d.amount d.unit
    unfold checkedInstant toInstant
    rw [ordinary.checkedDateTime_eq, ordinary.checkedOffsetAt_eq]
    dsimp only [bind, Except.bind]
    rw [valid.made]
    exact ordinary.checkedLand_eq valid _
  | sum base d ih =>
    unfold checkedInstant toInstant
    rw [ih]
    cases base.toInstant zone now with
    | error failure => rfl
    | ok i =>
      have start : (zone.dateTime i).Valid := i.valid_dateTime _
      have valid : (d.addTo (zone.dateTime i)).Valid := start.plus d.amount d.unit
      dsimp only [bind, Except.bind, Except.mapError]
      rw [ordinary.checkedDateTime_eq, ordinary.checkedOffsetAt_eq]
      dsimp only
      rw [valid.made]
      exact ordinary.checkedLand_eq valid _

theorem checkedEvaluate_eq (text? : Option Text) (ordinary : zone.Ordinary) :
    checkedEvaluate text? zone now = (evaluate text? zone now).mapError .failure := by
  cases text? with
  | none => rfl
  | some text =>
    by_cases blank : trimSymbols text.symbols = []
    · simp only [checkedEvaluate, evaluate, blank]
      rfl
    · rw [evaluate_some blank]
      obtain ⟨first, rest, body⟩ := List.exists_cons_of_ne_nil blank
      unfold checkedEvaluate
      dsimp only
      rw [body]
      dsimp only
      cases Expression.read (first :: rest) with
      | error failure => rfl
      | ok e => exact e.checkedInstant_eq ordinary

end Almanac
