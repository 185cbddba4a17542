import Almanac.Proofs.DurationSpelling
import Almanac.Proofs.ExpressionReading
import Almanac.Proofs.Keywords
import Almanac.Proofs.LiteralMarks
import Almanac.Proofs.SumSplit

namespace Almanac

/-- The forms of an expression, in the order in which they are tried. -/
inductive Form
  | literal | sum | anchor | duration
deriving DecidableEq

/-- What one form alone makes of a text, if the text has that form. A sum has a duration of a known
unit on its right. Of a text that is a duration by itself the unit may be unknown. -/
def Form.read? (f : Form) (text : List Symbol) : Option (Except Failure Expression) :=
  match f with
  | literal =>
    (Literal.read? (text.map Symbol.reading)).map fun value =>
      .ok (.literal (.ofSymbols text) value)
  | sum =>
    (splitSum? text).bind fun parts =>
      match Duration.read parts.right with
      | .error _ => none
      | .ok value =>
        some ((Expression.read parts.left).map fun base =>
          .sum base (if parts.sign = '-' then value.negated else value))
  | anchor => (Anchor.find? (text.map Symbol.reading)).map fun value => .ok (.anchor value)
  | duration =>
    match Duration.read? text with
    | .error failure => some (.error failure)
    | .ok value? => value?.map fun value => .ok (.fromNow value)

section

variable {text : List Symbol} {parts : SumParts} {written : DurationParts}

theorem find?_of_literalMarks {text : List Char} (h : LiteralMarks text) :
    Anchor.find? text = none := by
  rcases h with ⟨before, after, rfl, mem⟩ | colon | ⟨c, last, digit⟩
  · exact Anchor.find?_of_isMark (by decide) (List.mem_append_left ('-' :: after) mem)
  · exact Anchor.find?_of_isMark (by decide) colon
  · exact Anchor.find?_of_isMark (isMark_of_isDigit digit) (List.mem_of_getLast? last)

theorem find?_of_splitSum? (split : splitSum? text = some parts) :
    Anchor.find? (text.map Symbol.reading) = none := by
  obtain ⟨left, s, right, rfl, sign, -, -⟩ := exists_of_splitSum? split
  exact Anchor.find?_of_isMark (isMark_of_isSign sign) (by simp)

namespace DurationParts.Spells

theorem find?_eq_none {text : List Char} (h : written.Spells text) : Anchor.find? text = none := by
  obtain ⟨c, mem, digit⟩ := h.exists_digit
  exact Anchor.find?_of_isMark (isMark_of_isDigit digit) mem

theorem splitSum?_eq_none (h : written.Spells (text.map Symbol.reading)) :
    splitSum? text = none := by
  rw [Option.eq_none_iff_forall_ne_some]
  intro parts split
  obtain ⟨left, s, right, rfl, sign, shown, -⟩ := exists_of_splitSum? split
  rw [List.map_append, List.map_cons] at h
  have blank := h.blank_before rfl sign
  obtain ⟨x, mem, visible⟩ := List.any_eq_true.mp shown
  have hidden : x.isBlank = true := blank _ (List.mem_map_of_mem mem)
  rw [hidden] at visible
  cases visible

theorem literal_eq_none {text : List Char} (h : written.Spells text) :
    Literal.read? text = none := by
  rw [Option.eq_none_iff_forall_ne_some]
  intro l read
  rcases Literal.marks_of_read? read with ⟨before, after, split, mem⟩ | colon | ⟨c, last, digit⟩
  · exact absurd (h.blank_before split (by decide) _ mem) (by decide)
  · exact h.colon_not_mem colon
  · obtain ⟨d, last', letter | blank⟩ := h.exists_last
    · rw [last] at last'
      cases last'
      rw [not_isDigit_of_isAlpha (h.isAlpha_of_mem_code letter)] at digit
      cases digit
    · rw [last] at last'
      cases last'
      rw [isBlank_of_isDigit digit] at blank
      cases blank

end DurationParts.Spells

/-- The text of a duration to add does not end as literals do. -/
theorem Duration.endsOpen_of_read {value : Duration} (h : Duration.read text = .ok value) :
    EndsOpen (text.map Symbol.reading) := by
  unfold read read? at h
  cases found : durationParts? (text.map Symbol.reading) with
  | none =>
    rw [found] at h
    cases h
  | some written =>
    rw [found] at h
    dsimp only at h
    cases known : TimeUnit.ofCode? written.code with
    | none =>
      rw [known] at h
      cases h
    | some unit => exact (spells_of_durationParts? found).endsOpen known

/-- A text that ends in a duration to add is no literal. -/
theorem literal_eq_none_of_splitSum? {value : Duration} (split : splitSum? text = some parts)
    (right : Duration.read parts.right = .ok value) :
    Literal.read? (text.map Symbol.reading) = none := by
  obtain ⟨left, s, rest, rfl, -, -, rfl⟩ := exists_of_splitSum? split
  obtain ⟨lead, trail, eq, -, blank⟩ := exists_trimBy Symbol.isBlank rest
  have trimmed : EndsOpen ((trimSymbols rest).map Symbol.reading) := Duration.endsOpen_of_read right
  have blank' : ∀ c ∈ trail.map Symbol.reading, isBlank c = true := by
    intro c mem
    obtain ⟨x, hx, rfl⟩ := List.mem_map.mp mem
    exact blank x hx
  have ends := ((trimmed.append_left (lead.map Symbol.reading)).append_blanks blank').append_left
    ((left ++ [s]).map Symbol.reading)
  have whole : left ++ s :: rest = left ++ [s] ++ (lead ++ trimSymbols rest ++ trail) := by
    unfold trimSymbols
    rw [List.append_assoc lead, ← eq, List.append_assoc]
    rfl
  apply Literal.read?_of_endsOpen
  rw [whole]
  simp only [List.map_append] at ends ⊢
  exact ends

end

namespace Form

variable {text : List Symbol} {result : Except Failure Expression}

theorem exists_of_literal (h : literal.read? text = some result) :
    ∃ value, Literal.read? (text.map Symbol.reading) = some value
      ∧ result = .ok (.literal (.ofSymbols text) value) := by
  obtain ⟨value, read, same⟩ := Option.map_eq_some_iff.mp h
  exact ⟨value, read, same.symm⟩

theorem exists_of_sum (h : sum.read? text = some result) :
    ∃ parts value, splitSum? text = some parts ∧ Duration.read parts.right = .ok value
      ∧ result = (Expression.read parts.left).map fun base =>
        .sum base (if parts.sign = '-' then value.negated else value) := by
  obtain ⟨parts, split, right⟩ := Option.bind_eq_some_iff.mp h
  cases read : Duration.read parts.right with
  | error failure =>
    rw [read] at right
    cases right
  | ok value =>
    rw [read] at right
    cases right
    exact ⟨parts, value, split, read, rfl⟩

theorem exists_of_anchor (h : anchor.read? text = some result) :
    ∃ value, Anchor.find? (text.map Symbol.reading) = some value ∧ result = .ok (.anchor value) := by
  obtain ⟨value, found, same⟩ := Option.map_eq_some_iff.mp h
  exact ⟨value, found, same.symm⟩

theorem exists_of_duration (h : duration.read? text = some result) :
    ∃ written : DurationParts, written.Spells (text.map Symbol.reading) := by
  cases found : durationParts? (text.map Symbol.reading) with
  | some written => exact ⟨written, spells_of_durationParts? found⟩
  | none =>
    unfold read? Duration.read? at h
    rw [found] at h
    cases h

variable {f g : Form} {result' : Except Failure Expression}

/-- Of a text that is a duration by itself the other forms make nothing. -/
theorem eq_duration (h : duration.read? text = some result)
    (fits : f.read? text = some result') : f = duration := by
  obtain ⟨written, spells⟩ := exists_of_duration h
  cases f with
  | literal =>
    obtain ⟨l, literal, -⟩ := exists_of_literal fits
    rw [spells.literal_eq_none] at literal
    cases literal
  | sum =>
    obtain ⟨parts, value, split, -, -⟩ := exists_of_sum fits
    rw [spells.splitSum?_eq_none] at split
    cases split
  | anchor =>
    obtain ⟨a, found, -⟩ := exists_of_anchor fits
    rw [spells.find?_eq_none] at found
    cases found
  | duration => rfl

theorem eq_anchor (h : anchor.read? text = some result) (fits : f.read? text = some result') :
    f = anchor := by
  obtain ⟨a, found, -⟩ := exists_of_anchor h
  cases f with
  | literal =>
    obtain ⟨l, literal, -⟩ := exists_of_literal fits
    rw [find?_of_literalMarks (Literal.marks_of_read? literal)] at found
    cases found
  | sum =>
    obtain ⟨parts, value, split, -, -⟩ := exists_of_sum fits
    rw [find?_of_splitSum? split] at found
    cases found
  | anchor => rfl
  | duration => exact (eq_duration fits h).symm

theorem eq_sum (h : sum.read? text = some result) (fits : f.read? text = some result') :
    f = sum := by
  obtain ⟨parts, value, split, right, -⟩ := exists_of_sum h
  cases f with
  | literal =>
    obtain ⟨l, literal, -⟩ := exists_of_literal fits
    rw [literal_eq_none_of_splitSum? split right] at literal
    cases literal
  | sum => rfl
  | anchor => exact (eq_anchor fits h).symm
  | duration => exact (eq_duration fits h).symm

theorem eq_of_read? (hf : f.read? text = some result) (hg : g.read? text = some result') :
    f = g := by
  cases g with
  | duration => exact eq_duration hg hf
  | anchor => exact eq_anchor hg hf
  | sum => exact eq_sum hg hf
  | literal =>
    cases f with
    | literal => rfl
    | sum => exact (eq_sum hf hg).symm
    | anchor => exact (eq_anchor hf hg).symm
    | duration => exact (eq_duration hf hg).symm

theorem read_of_anchor (h : anchor.read? text = some result) : Expression.read text = result := by
  obtain ⟨a, found, rfl⟩ := exists_of_anchor h
  apply Expression.read_anchor _ _ found
  · rw [Option.eq_none_iff_forall_ne_some]
    intro l literal
    rw [find?_of_literalMarks (Literal.marks_of_read? literal)] at found
    cases found
  · rw [Option.eq_none_iff_forall_ne_some]
    intro parts split
    rw [find?_of_splitSum? split] at found
    cases found

theorem read_of_duration (h : duration.read? text = some result) :
    Expression.read text = result := by
  obtain ⟨written, spells⟩ := exists_of_duration h
  rw [Expression.read_duration spells.literal_eq_none spells.splitSum?_eq_none
    spells.find?_eq_none]
  unfold read? at h
  cases read : Duration.read? text with
  | error failure =>
    rw [read] at h
    exact Option.some.inj h
  | ok value? =>
    rw [read] at h
    cases value? with
    | none => cases h
    | some value => exact Option.some.inj h

/-- No text has two forms, and the form that a text has decides what it means: none that is tried
before hides it. -/
theorem read?_unambiguous (text : List Symbol) :
    (∀ f g, (read? f text).isSome → (read? g text).isSome → f = g)
      ∧ ∀ f result, read? f text = some result → Expression.read text = result := by
  constructor
  · intro f g hf hg
    obtain ⟨result, fits⟩ := Option.isSome_iff_exists.mp hf
    obtain ⟨result', fits'⟩ := Option.isSome_iff_exists.mp hg
    exact eq_of_read? fits fits'
  · intro f result fits
    cases f with
    | literal =>
      obtain ⟨l, literal, rfl⟩ := exists_of_literal fits
      exact Expression.read_literal literal
    | sum =>
      obtain ⟨parts, value, split, right, rfl⟩ := exists_of_sum fits
      exact Expression.read_sum (literal_eq_none_of_splitSum? split right) split right
    | anchor => exact read_of_anchor fits
    | duration => exact read_of_duration fits

end Form

end Almanac
