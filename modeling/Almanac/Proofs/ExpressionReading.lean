import Almanac.Expression.Basic

namespace Almanac

theorem evaluate_some {text : Text} (h : trimSymbols text.symbols ≠ []) (zone : Zone)
    (now : Instant) :
    evaluate (some text) zone now
      = (Expression.read (trimSymbols text.symbols)).bind (·.toInstant zone now) := by
  unfold evaluate
  split
  · contradiction
  next text' eq =>
    cases Option.some.inj eq
    split
    next empty => exact absurd empty h
    · rfl

theorem evaluate_ok_iff {text : Text} {zone : Zone} {now i : Instant} :
    evaluate (some text) zone now = .ok i
      ↔ trimSymbols text.symbols ≠ [] ∧ ∃ e, Expression.read (trimSymbols text.symbols) = .ok e
        ∧ e.toInstant zone now = .ok i := by
  by_cases blank : trimSymbols text.symbols = []
  · simp only [evaluate, blank]
    simp
  · rw [evaluate_some blank]
    cases Expression.read (trimSymbols text.symbols) <;> simp [Except.bind, blank]

namespace Expression

theorem read_literal {text : List Symbol} {value : Literal}
    (h : Literal.read? (text.map Symbol.reading) = some value) :
    Expression.read text = .ok (.literal (.ofSymbols text) value) := by
  unfold Expression.read
  rw [h]

/-- A text that is no literal is read as a sum where it can be divided, from its right. -/
theorem read_divided {text : List Symbol} {parts : SumParts}
    (literal : Literal.read? (text.map Symbol.reading) = none)
    (split : splitSum? text = some parts) :
    Expression.read text
      = (Duration.read parts.right).bind fun value =>
        (Expression.read parts.left).map fun base =>
          .sum base (if parts.sign = '-' then value.negated else value) := by
  rw [Expression.read, literal]
  dsimp only
  split
  next parts' eq =>
    cases Option.some.inj (split.symm.trans eq)
    cases Duration.read parts.right with
    | error failure => rfl
    | ok value =>
      dsimp only [Except.bind]
      cases Expression.read parts.left <;> rfl
  next eq =>
    rw [split] at eq
    cases eq

/-- What is read from a text that is divided is a sum on what is read from its left part. -/
theorem exists_of_read_divided {text : List Symbol} {parts : SumParts} {e : Expression}
    (literal : Literal.read? (text.map Symbol.reading) = none)
    (split : splitSum? text = some parts) (h : Expression.read text = .ok e) :
    ∃ base value, Expression.read parts.left = .ok base ∧ e = .sum base value := by
  rw [read_divided literal split] at h
  cases right : Duration.read parts.right with
  | error failure =>
    rw [right] at h
    cases h
  | ok value =>
    rw [right] at h
    cases left : Expression.read parts.left with
    | error failure =>
      rw [left] at h
      cases h
    | ok base =>
      rw [left] at h
      cases h
      exact ⟨base, _, rfl, rfl⟩

theorem read_sum {text : List Symbol} {parts : SumParts} {value : Duration}
    (literal : Literal.read? (text.map Symbol.reading) = none)
    (split : splitSum? text = some parts) (right : Duration.read parts.right = .ok value) :
    Expression.read text
      = (Expression.read parts.left).map fun base =>
        .sum base (if parts.sign = '-' then value.negated else value) := by
  rw [read_divided literal split, right]
  rfl

theorem read_anchor {text : List Symbol} {value : Anchor}
    (literal : Literal.read? (text.map Symbol.reading) = none) (split : splitSum? text = none)
    (anchor : Anchor.find? (text.map Symbol.reading) = some value) :
    Expression.read text = .ok (.anchor value) := by
  rw [Expression.read, literal]
  dsimp only
  split
  next parts eq =>
    rw [split] at eq
    cases eq
  · rw [anchor]

theorem read_duration {text : List Symbol}
    (literal : Literal.read? (text.map Symbol.reading) = none) (split : splitSum? text = none)
    (anchor : Anchor.find? (text.map Symbol.reading) = none) :
    Expression.read text
      = match Duration.read? text with
        | .error failure => .error failure
        | .ok (some value) => .ok (fromNow value)
        | .ok none => .error (.unreadable (.ofSymbols text)) := by
  rw [Expression.read, literal]
  dsimp only
  split
  next parts eq =>
    rw [split] at eq
    cases eq
  · cases Duration.read? text with
    | error failure => simp only [anchor]
    | ok value? => cases value? <;> simp only [anchor]

theorem literal_of_read {symbols : List Symbol} {text : Text} {l : Literal}
    (h : read symbols = .ok (literal text l)) :
    Literal.read? (symbols.map Symbol.reading) = some l := by
  cases found : Literal.read? (symbols.map Symbol.reading) with
  | some value =>
    rw [read_literal found] at h
    cases h
    rfl
  | none =>
    cases split : splitSum? symbols with
    | some parts =>
      obtain ⟨base, value, -, sum⟩ := exists_of_read_divided found split h
      cases sum
    | none =>
      cases anchor : Anchor.find? (symbols.map Symbol.reading) with
      | some value =>
        rw [read_anchor found split anchor] at h
        cases h
      | none =>
        rw [read_duration found split anchor] at h
        split at h
        · cases h
        · cases h
        · cases h

theorem read_now : read (Text.ofChars "now".toList).symbols = .ok (.anchor .now) :=
  read_anchor (by decide +kernel) (by decide +kernel) (by decide +kernel)

end Expression

/-- A text that is a literal as a whole names the instant of the literal. -/
theorem evaluate_literal {text : Text} {l : Literal} (nonempty : trimSymbols text.symbols ≠ [])
    (literal : Literal.read? ((trimSymbols text.symbols).map Symbol.reading) = some l) (zone : Zone)
    (now : Instant) :
    evaluate (some text) zone now
      = l.toInstant (.ofSymbols (trimSymbols text.symbols)) zone now := by
  rw [evaluate_some nonempty, Expression.read_literal literal]
  rfl

theorem evaluate_ofChars {cs : List Char} {l : Literal}
    (trimmed : trimSymbols (cs.map .char) = cs.map .char) (nonempty : cs ≠ [])
    (literal : Literal.read? cs = some l) (zone : Zone) (now : Instant) :
    evaluate (some (.ofChars cs)) zone now = l.toInstant (.ofChars cs) zone now := by
  have whole : trimSymbols (Text.ofChars cs).symbols = (Text.ofChars cs).symbols := by
    rw [Text.symbols_ofChars, trimmed]
  have chars : (Text.ofChars cs).symbols.map Symbol.reading = cs := Text.chars_ofChars cs
  have filled : trimSymbols (Text.ofChars cs).symbols ≠ [] := by
    intro empty
    rw [whole] at empty
    rw [empty] at chars
    exact nonempty chars.symm
  rw [← chars, ← whole] at literal
  rw [evaluate_literal filled literal, whole]

/-- The present is where its date and time lead back to. -/
theorem evaluate_now {z : Zone} {i : Instant} (low : -9999 ≤ (z.dateTime i).date.year)
    (high : (z.dateTime i).date.year ≤ 9999) :
    evaluate (some (.ofChars "now".toList)) z i
      = .ok (z.instant (z.dateTime i) (some (z.offsetAt i))) := by
  have trimmed : trimSymbols (Text.ofChars "now".toList).symbols
      = (Text.ofChars "now".toList).symbols := by decide
  rw [evaluate_some (by decide), trimmed, Expression.read_now]
  change z.land (z.dateTime i) (z.offsetAt i) = _
  have within : (z.dateTime i).withinYears = .ok (z.dateTime i) := if_pos ⟨low, high⟩
  unfold Zone.land
  rw [within]

end Almanac
