import Almanac.Proofs.EndsOfTime

namespace Almanac

/-- A literal that names a date by itself. A time is one of the present day. -/
def Literal.Absolute : Literal → Prop
  | instant .. | dateTime _ | wideYear => True
  | timeOfDay _ => False

/-- An expression that begins with a date or with an end of time. -/
def Expression.Absolute : Expression → Prop
  | literal _ l => l.Absolute
  | anchor a => ∃ i, a.endOfTime? = some i
  | fromNow _ => False
  | sum base _ => base.Absolute

/-- What is left of a text when durations are taken from its right until it is a literal or cannot
be divided any more. -/
def startOf (text : List Symbol) : List Symbol :=
  match Literal.read? (text.map Symbol.reading) with
  | some _ => text
  | none =>
    match _h : splitSum? text with
    | some parts => startOf parts.left
    | none => text
termination_by text.length
decreasing_by exact splitSum?_left_length _h

/-- A text that is a date or an end of time. -/
def NamesDate (text : List Symbol) : Prop :=
  (∃ l, Literal.read? (text.map Symbol.reading) = some l ∧ l.Absolute)
    ∨ ∃ a i, Anchor.find? (text.map Symbol.reading) = some a ∧ a.endOfTime? = some i

section

variable {text : List Symbol}

theorem startOf_literal {l : Literal} (literal : Literal.read? (text.map Symbol.reading) = some l) :
    startOf text = text := by
  unfold startOf
  rw [literal]

theorem startOf_divided {parts : SumParts}
    (literal : Literal.read? (text.map Symbol.reading) = none)
    (split : splitSum? text = some parts) : startOf text = startOf parts.left := by
  rw [startOf, literal]
  dsimp only
  split
  next parts' eq => cases split.symm.trans eq; rfl
  next eq => cases split.symm.trans eq

theorem startOf_undivided (literal : Literal.read? (text.map Symbol.reading) = none)
    (split : splitSum? text = none) : startOf text = text := by
  rw [startOf, literal]
  dsimp only
  split
  next parts eq => cases split.symm.trans eq
  next => rfl

end

/-- What a text begins with is kept in the expression that it is read as. -/
theorem Expression.absolute_of_read {text : List Symbol} {e : Expression}
    (read : Expression.read text = .ok e) (start : NamesDate (startOf text)) : e.Absolute := by
  cases literal : Literal.read? (text.map Symbol.reading) with
  | some l =>
    rw [read_literal literal] at read
    rw [startOf_literal literal] at start
    cases read
    rcases start with ⟨l', same, absolute⟩ | ⟨a, i, found, -⟩
    · cases literal.symm.trans same
      exact absolute
    · rw [find?_of_literalMarks (Literal.marks_of_read? literal)] at found
      cases found
  | none =>
    cases split : splitSum? text with
    | some parts =>
      obtain ⟨base, value, left, rfl⟩ := exists_of_read_divided literal split read
      rw [startOf_divided literal split] at start
      have kept : base.Absolute := absolute_of_read left start
      exact kept
    | none =>
      rw [startOf_undivided literal split] at start
      rcases start with ⟨l, same, -⟩ | ⟨a, i, found, named⟩
      · cases literal.symm.trans same
      · rw [read_anchor literal split found] at read
        cases read
        exact ⟨i, named⟩
termination_by text.length
decreasing_by exact splitSum?_left_length split

variable {z : Zone} {now now' : Instant}

theorem Literal.Absolute.toInstant_eq {l : Literal} (h : l.Absolute) (text : Text) (z : Zone)
    (now now' : Instant) : l.toInstant text z now = l.toInstant text z now' := by
  cases l with
  | timeOfDay time => exact h.elim
  | instant | dateTime | wideYear => rfl

/-- An end of time is landed on by whatever offset the present has. -/
theorem Zone.Ordinary.land_endOfTime (h : z.Ordinary) {a : Anchor} {i : Instant}
    (named : a.endOfTime? = some i) (start start' : Int) :
    z.land (z.dateTime i) start = z.land (z.dateTime i) start' := by
  unfold land
  cases within : (z.dateTime i).withinYears with
  | error failure => rfl
  | ok c =>
    obtain ⟨-, rfl⟩ := DateTime.short_of_withinYears within
    dsimp only
    rw [Anchor.instant_endOfTime named h, Anchor.instant_endOfTime named h]

theorem Expression.Absolute.toInstant_eq {e : Expression} (h : e.Absolute) (ordinary : z.Ordinary)
    (now now' : Instant) : e.toInstant z now = e.toInstant z now' := by
  induction e with
  | literal text l =>
    -- Without this the checker evaluates both sides to compare the two presents.
    unfold toInstant
    exact Literal.Absolute.toInstant_eq h text z now now'
  | anchor a =>
    obtain ⟨i, named⟩ := h
    unfold toInstant
    rw [Anchor.resolve_endOfTime named, Anchor.resolve_endOfTime named]
    exact ordinary.land_endOfTime named _ _
  | fromNow d => exact h.elim
  | sum base d ih =>
    unfold toInstant
    rw [ih h]

/-- The present does not matter to a text that begins with a date or with an end of time, whatever
is added to it: it names the same instant, or fails in the same way, at all times. -/
theorem evaluate_present_free (available : z.Available) {text : Text}
    (start : NamesDate (startOf (trimSymbols text.symbols))) (now now' : Instant) :
    evaluate (some text) z now = evaluate (some text) z now' := by
  by_cases blank : trimSymbols text.symbols = []
  · unfold evaluate
    simp only [blank]
  · rw [evaluate_some blank, evaluate_some blank]
    cases read : Expression.read (trimSymbols text.symbols) with
    | error failure => simp only [Except.bind]
    | ok e => exact (Expression.absolute_of_read read start).toInstant_eq available.ordinary now now'

theorem evaluate_present_free_max :
    Zone.helsinki.Available
      ∧ NamesDate (startOf (trimSymbols (Text.ofString "max - 1d").symbols))
      ∧ evaluate (some "max - 1d") Zone.helsinki ⟨0⟩
        = evaluate (some "max - 1d") Zone.helsinki ⟨1720000000000⟩ := by
  have start : NamesDate (startOf (trimSymbols (Text.ofString "max - 1d").symbols)) := by
    obtain ⟨left, hl⟩ : ∃ left, (Text.ofString "max").symbols = left := ⟨_, rfl⟩
    have split : splitSum? (trimSymbols (Text.ofString "max - 1d").symbols)
        = some ⟨left, '-', (Text.ofString "1d").symbols⟩ := by
      rw [← hl]
      decide +kernel
    rw [startOf_divided (by decide +kernel) split]
    subst hl
    rw [startOf_undivided (by decide +kernel) (by decide +kernel)]
    exact .inr ⟨.max, _, by decide +kernel, rfl⟩
  exact ⟨Zone.available_helsinki, start, evaluate_present_free Zone.available_helsinki start _ _⟩

end Almanac
