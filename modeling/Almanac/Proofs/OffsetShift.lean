import Almanac.Proofs.ExpressionReading
import Almanac.Proofs.ZoneTable

namespace Almanac

def Instant.later (i : Instant) (seconds : Int) : Instant :=
  ⟨i.epochMillis + seconds * millisPerSecond⟩

@[simp] theorem Instant.later_later (i : Instant) (seconds seconds' : Int) :
    (i.later seconds).later seconds' = i.later (seconds + seconds') := by
  simp only [later, Int.add_mul, Int.add_assoc]

@[simp] theorem Instant.later_zero (i : Instant) : i.later 0 = i := by
  simp [later]

/-- A literal that is read on the clocks of a zone, whichever that is. -/
def Literal.Floating : Literal → Prop
  | instant .. => False
  | dateTime _ | timeOfDay _ | wideYear => True

/-- An anchor that is found on the clocks of a zone. The others name one instant for all zones. -/
def Anchor.Floating (a : Anchor) : Prop :=
  a ≠ .min ∧ a ≠ .max ∧ a ≠ .distantPast ∧ a ≠ .distantFuture

instance (a : Anchor) : Decidable a.Floating :=
  inferInstanceAs (Decidable (_ ∧ _ ∧ _ ∧ _))

/-- An expression that begins on the clocks of a zone, whichever that is. -/
def Expression.Floating : Expression → Prop
  | literal _ l => l.Floating
  | anchor a => a.Floating
  | fromNow _ => True
  | sum base _ => base.Floating

theorem Anchor.Floating.resolve_eq {a : Anchor} (h : a.Floating) (present : DateTime) (z z' : Zone) :
    a.resolve present z = a.resolve present z' := by
  obtain ⟨min, max, past, future⟩ := h
  cases a with
  | min => exact absurd rfl min
  | max => exact absurd rfl max
  | distantPast => exact absurd rfl past
  | distantFuture => exact absurd rfl future
  | _ => rfl

namespace Zone

variable (offset : Int)

theorem dateTime_atOffset (i : Instant) :
    (atOffset offset).dateTime i = utc.dateTime (i.later offset) := by
  change DateTime.ofEpochMillis _ offset = DateTime.ofEpochMillis _ 0
  unfold DateTime.ofEpochMillis Instant.later
  rw [Int.zero_mul, Int.add_zero]

theorem instant_atOffset (c : DateTime) (preferred? preferred?' : Option Int) :
    (atOffset offset).instant c preferred? = (utc.instant c preferred?').later (-offset) := by
  change Instant.mk (c.epochMillis offset) = Instant.mk (c.epochMillis 0 + _)
  unfold DateTime.epochMillis
  rw [Int.neg_mul]
  refine congrArg Instant.mk ?_
  omega

theorem land_atOffset (c : DateTime) (start start' : Int) :
    (atOffset offset).land c start = (utc.land c start').map (·.later (-offset)) := by
  unfold land
  cases c.withinYears with
  | error failure => rfl
  | ok c => exact congrArg Except.ok (instant_atOffset offset c _ _)

end Zone

variable {offset : Int} {now : Instant}

theorem Literal.Floating.toInstant_atOffset {l : Literal} (h : l.Floating) (text : Text) :
    l.toInstant text (.atOffset offset) now
      = (l.toInstant text .utc (now.later offset)).map (·.later (-offset)) := by
  unfold toInstant
  cases l with
  | instant c fields => exact h.elim
  | dateTime c =>
    dsimp only
    cases c.checked with
    | error fault => rfl
    | ok c => exact congrArg Except.ok (Zone.instant_atOffset offset c _ _)
  | timeOfDay time =>
    dsimp only
    rw [Zone.dateTime_atOffset]
    cases (Zone.utc.dateTime (now.later offset)).atTime time with
    | error fault => rfl
    | ok c => exact congrArg Except.ok (Zone.instant_atOffset offset c _ _)
  | wideYear => rfl

theorem Expression.Floating.toInstant_atOffset {e : Expression} (h : e.Floating) :
    e.toInstant (.atOffset offset) now
      = (e.toInstant .utc (now.later offset)).map (·.later (-offset)) := by
  induction e with
  | literal text l => exact Literal.Floating.toInstant_atOffset h text
  | anchor a =>
    unfold toInstant
    rw [Zone.dateTime_atOffset, Anchor.Floating.resolve_eq h _ _ .utc]
    exact Zone.land_atOffset offset _ _ _
  | fromNow d =>
    unfold toInstant
    rw [Zone.dateTime_atOffset]
    exact Zone.land_atOffset offset _ _ _
  | sum base d ih =>
    unfold toInstant
    rw [ih h]
    cases base.toInstant .utc (now.later offset) with
    | error failure => rfl
    | ok i =>
      -- The left side is moved back and its clock forward again.
      have shown : (Zone.atOffset offset).dateTime (i.later (-offset)) = Zone.utc.dateTime i := by
        rw [Zone.dateTime_atOffset, Instant.later_later, Int.add_left_neg, Instant.later_zero]
      simp only [Except.map]
      rw [shown]
      exact Zone.land_atOffset offset _ _ _

theorem evaluate_atOffset {text? : Option Text} (floating : ∀ text e, text? = some text →
    Expression.read (trimSymbols text.symbols) = .ok e → e.Floating) :
    evaluate text? (.atOffset offset) now
      = (evaluate text? .utc (now.later offset)).map (·.later (-offset)) := by
  cases text? with
  | none => rfl
  | some text =>
    by_cases blank : trimSymbols text.symbols = []
    · simp only [evaluate, blank]
      rfl
    · rw [evaluate_some blank, evaluate_some blank]
      cases read : Expression.read (trimSymbols text.symbols) with
      | error failure => rfl
      | ok e => exact (floating text e rfl read).toInstant_atOffset

/-- A zone is made of every offset of less than a thousand million days. Where clocks are always so
many seconds ahead of UTC, a floating text names the instant that it names in UTC so much later,
moved back again. It fails there as it fails in UTC. -/
theorem evaluate_ofOffset {text? : Option Text} (offset : Int) (now : Instant)
    (floating : ∀ text e, text? = some text →
      Expression.read (trimSymbols text.symbols) = .ok e → e.Floating) :
    ((∃ zone, Zone.ofOffset offset = .ok zone)
        ↔ -86399999913600 ≤ offset ∧ offset < 86400000000000)
      ∧ ∀ zone, Zone.ofOffset offset = .ok zone →
        evaluate text? zone now
          = (evaluate text? .utc (now.later offset)).map (·.later (-offset)) := by
  constructor
  · constructor
    · rintro ⟨zone, made⟩
      exact (Zone.ofOffset_eq_ok_iff.mp made).1
    · intro range
      exact ⟨_, Zone.ofOffset_eq_ok_iff.mpr ⟨range, rfl⟩⟩
  · intro zone made
    obtain ⟨-, rfl⟩ := Zone.ofOffset_eq_ok_iff.mp made
    exact evaluate_atOffset floating

theorem evaluate_ofOffset_morning :
    (∀ text e, some (Text.ofChars "morning - 1h".toList) = some text →
        Expression.read (trimSymbols text.symbols) = .ok e → e.Floating)
      ∧ ∃ zone, Zone.ofOffset 19800 = .ok zone
        ∧ evaluate (some (.ofChars "morning - 1h".toList)) zone ⟨1709221530250⟩
          = (evaluate (some (.ofChars "morning - 1h".toList)) .utc
              ((⟨1709221530250⟩ : Instant).later 19800)).map (·.later (-19800)) := by
  obtain ⟨whole, hw⟩ : ∃ whole, trimSymbols (Text.ofChars "morning - 1h".toList).symbols = whole :=
    ⟨_, rfl⟩
  obtain ⟨left, hl⟩ : ∃ left, (Text.ofChars "morning".toList).symbols = left := ⟨_, rfl⟩
  have literal : Literal.read? (whole.map Symbol.reading) = none := by
    rw [← hw]
    decide +kernel
  have split : splitSum? whole = some ⟨left, '-', (Text.ofChars "1h".toList).symbols⟩ := by
    rw [← hw, ← hl]
    decide +kernel
  have right : Duration.read (Text.ofChars "1h".toList).symbols = .ok ⟨1, .hour⟩ := by rfl
  have base : Expression.read left = .ok (.anchor .morning) := by
    rw [← hl]
    exact Expression.read_anchor (by decide +kernel) (by decide +kernel) (by decide +kernel)
  have floating : ∀ text e, some (Text.ofChars "morning - 1h".toList) = some text →
      Expression.read (trimSymbols text.symbols) = .ok e → e.Floating := by
    intro text e same read
    cases same
    rw [hw, Expression.read_sum literal split right, base] at read
    cases read
    change Anchor.Floating .morning
    decide
  obtain ⟨made, shifted⟩ := evaluate_ofOffset 19800 ⟨1709221530250⟩ floating
  obtain ⟨zone, there⟩ := made.mpr (by decide)
  exact ⟨floating, zone, there, shifted zone there⟩

/-- A thousand million days ahead of UTC there is no zone, although a time of day is read in UTC so
much later. -/
theorem evaluate_without_zone :
    Zone.ofOffset 86400000000000 = .error (.tooManyDays 1000000000)
      ∧ (∀ text e, some (Text.ofChars "12:00".toList) = some text →
        Expression.read (trimSymbols text.symbols) = .ok e → e.Floating)
      ∧ evaluate (some (.ofChars "12:00".toList)) .utc (Instant.epoch.later 86400000000000)
        = .ok ⟨86400000043200000⟩ := by
  have literal : Literal.read? ((trimSymbols (Text.ofChars "12:00".toList).symbols).map
      Symbol.reading) = some (.timeOfDay ⟨12, 0, 0, 0⟩) := by decide +kernel
  refine ⟨by decide +kernel, fun text e same read => ?_, ?_⟩
  · cases same
    rw [Expression.read_literal literal] at read
    cases read
    trivial
  · rw [evaluate_literal (by decide) literal]
    rfl

end Almanac
