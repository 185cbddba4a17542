import Almanac.Proofs.DurationSpelling
import Almanac.Proofs.Sums

namespace Almanac

/-- Somewhere in a text there are at least 4300 of the digits 0 to 9 in a row. -/
def HasLongRun (text : List Char) : Prop :=
  ∃ run, run <:+: text ∧ digitLimit ≤ run.length ∧ ∀ c ∈ run, c.isDigit = true

theorem HasLongRun.of_isInfix {part text : List Char} (h : HasLongRun part) (inside : part <:+: text) :
    HasLongRun text := by
  obtain ⟨run, within, long, digits⟩ := h
  exact ⟨run, within.trans inside, long, digits⟩

/-- A result of which `p` is true, or a failure of a kind that users are told about. -/
def Told {α : Type} (p : α → Prop) : Except Failure α → Prop
  | .ok a => p a
  | .error failure => failure.category?.isSome = true

namespace Told

variable {α β : Type} {p : α → Prop} {q : β → Prop} {result : Except Failure α}

theorem bind (h : Told p result) {f : α → Except Failure β} (next : ∀ a, p a → Told q (f a)) :
    Told q (result.bind f) := by
  cases result with
  | error failure => exact h
  | ok a => exact next a h

theorem map (h : Told p result) {f : α → β} (next : ∀ a, p a → q (f a)) :
    Told q (result.map f) := by
  cases result with
  | error failure => exact h
  | ok a => exact next a h

end Told

def Duration.FewDigits (d : Duration) : Prop :=
  d.amount.natAbs < smallestLong

/-- An expression of numbers that have few digits, be it years or amounts. -/
def Expression.FewDigits : Expression → Prop
  | literal _ l => l.Short
  | anchor _ => True
  | fromNow d => d.FewDigits
  | sum base d => base.FewDigits ∧ d.FewDigits

section

variable {text : List Symbol}

theorem Duration.FewDigits.negated {d : Duration} (h : d.FewDigits) : d.negated.FewDigits := by
  unfold FewDigits Duration.negated at *
  rw [Int.natAbs_neg]
  exact h

theorem Duration.told_read? (short : ¬ HasLongRun (text.map Symbol.reading)) :
    Told (fun value? => ∀ d ∈ value?, d.FewDigits) (read? text) := by
  unfold read?
  cases found : durationParts? (text.map Symbol.reading) with
  | none => exact fun d mem => absurd mem (Option.not_mem_none d)
  | some parts =>
    have spells := spells_of_durationParts? found
    have few : parts.digits.length < digitLimit := by
      by_contra long
      exact short ⟨parts.digits, spells.digits_isInfix, Nat.le_of_not_lt long,
        spells.isDigit_of_mem_digits⟩
    dsimp only
    cases TimeUnit.ofCode? parts.code with
    | none => exact rfl
    | some unit =>
      dsimp only
      rw [if_neg (Nat.not_lt.mpr (Nat.le_of_lt few))]
      intro d mem
      cases mem
      have value := digitsValue_lt parts.digits
      have limit := pow_le_smallestLong (Nat.le_sub_one_of_lt few)
      unfold FewDigits
      dsimp only
      split <;> omega

theorem Duration.told_read (short : ¬ HasLongRun (text.map Symbol.reading)) :
    Told FewDigits (read text) := by
  have told := told_read? short
  unfold read
  cases found : read? text with
  | error failure =>
    rw [found] at told
    exact told
  | ok value? =>
    rw [found] at told
    cases value? with
    | none => exact rfl
    | some d => exact told d rfl

theorem trimSymbols_isInfix (text : List Symbol) : trimSymbols text <:+: text :=
  trimBy_isInfix Symbol.isBlank text

theorem isInfix_of_splitSum? {parts : SumParts} (split : splitSum? text = some parts) :
    parts.left <:+: text ∧ parts.right <:+: text := by
  obtain ⟨left, s, right, rfl, -, -, rfl⟩ := exists_of_splitSum? split
  have before : left <:+: left ++ s :: right := (List.prefix_append left (s :: right)).isInfix
  have after : right <:+: left ++ s :: right := ⟨left ++ [s], [], by simp⟩
  exact ⟨(trimSymbols_isInfix left).trans before, (trimSymbols_isInfix right).trans after⟩

/-- A text without long runs of digits is an expression of few digits, or users are told why not. -/
theorem Expression.told_read {text : List Symbol}
    (short : ¬ HasLongRun (text.map Symbol.reading)) : Told FewDigits (read text) := by
  have part {symbols : List Symbol} (inside : symbols <:+: text) :
      ¬ HasLongRun (symbols.map Symbol.reading) :=
    fun long => short (long.of_isInfix (inside.map Symbol.reading))
  cases literal : Literal.read? (text.map Symbol.reading) with
  | some value =>
    rw [read_literal literal]
    exact Literal.short_of_read? literal
  | none =>
    cases split : splitSum? text with
    | some parts =>
      obtain ⟨left, right⟩ := isInfix_of_splitSum? split
      rw [read_divided literal split]
      refine (Duration.told_read (part right)).bind fun d amount => ?_
      refine (told_read (part left)).map fun base few => ⟨few, ?_⟩
      split
      · exact amount.negated
      · exact amount
    | none =>
      cases anchor : Anchor.find? (text.map Symbol.reading) with
      | some value =>
        rw [read_anchor literal split anchor]
        exact trivial
      | none =>
        have whole := Duration.told_read? short
        rw [read_duration literal split anchor]
        cases found : Duration.read? text with
        | error failure =>
          rw [found] at whole
          exact whole
        | ok value? =>
          rw [found] at whole
          cases value? with
          | none => exact rfl
          | some d => exact whole d rfl
termination_by text.length
decreasing_by exact splitSum?_left_length split

end

end Almanac
