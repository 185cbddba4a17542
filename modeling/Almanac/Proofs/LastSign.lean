import Almanac.Proofs.SumReading
import Mathlib.Data.Nat.SuccPred

namespace Almanac

/-- At a place in a text there is a sign with something other than white space before and after
it. -/
structure DividesAt (text : List Symbol) (i : Nat) : Prop where
  sign : ∃ s, text[i]? = some s ∧ isSign s.reading = true
  before : ∃ s ∈ text.take i, s.isBlank = false
  after : ∃ s ∈ text.drop (i + 1), s.isBlank = false

theorem DividesAt.lt_length {text : List Symbol} {i : Nat} (h : DividesAt text i) :
    i < text.length := by
  obtain ⟨s, here, -⟩ := h.sign
  exact (List.getElem?_eq_some_iff.mp here).1

/-- What stands before and after a place in a text, without white space around it. -/
def partsAt? (text : List Symbol) (i : Nat) : Option SumParts :=
  text[i]?.map fun s => ⟨trimSymbols (text.take i), s.reading, trimSymbols (text.drop (i + 1))⟩

theorem any_visible_iff {text : List Symbol} :
    text.any (!·.isBlank) = true ↔ ∃ s ∈ text, s.isBlank = false := by
  simp

theorem trimSymbols_ne_nil_of_visible {text : List Symbol} (h : ∃ s ∈ text, s.isBlank = false) :
    trimSymbols text ≠ [] := by
  obtain ⟨s, mem, visible⟩ := h
  exact List.ne_nil_of_mem (mem_trimBy mem visible)

section

variable {text : List Symbol} {n : Nat}

/-- The signs of a text are tried from its end: one step back either divides it or goes on. -/
theorem splitBackwards_step_of_divides (h : DividesAt text n) :
    splitBackwards (text.drop (n + 1)) (text.take (n + 1)).reverse = partsAt? text n := by
  obtain ⟨s, here, sign⟩ := h.sign
  have before := any_visible_iff.mpr h.before
  have after := any_visible_iff.mpr h.after
  have front : (text.take (n + 1)).reverse = s :: (text.take n).reverse := by
    rw [List.take_add_one, here]
    simp
  rw [front, splitBackwards, sign, List.any_reverse, before, after, List.reverse_reverse,
    partsAt?, here]
  rfl

theorem splitBackwards_step_of_not_divides (bound : n < text.length) (h : ¬ DividesAt text n) :
    splitBackwards (text.drop (n + 1)) (text.take (n + 1)).reverse
      = splitBackwards (text.drop n) (text.take n).reverse := by
  have here : text[n]? = some text[n] := List.getElem?_eq_getElem bound
  have front : (text.take (n + 1)).reverse = text[n] :: (text.take n).reverse := by
    rw [List.take_add_one, here]
    simp
  have back : text.drop n = text[n] :: text.drop (n + 1) := List.drop_eq_getElem_cons bound
  rw [front, splitBackwards, if_neg, ← back]
  intro found
  simp only [Bool.and_eq_true, List.any_reverse] at found
  exact h ⟨⟨_, here, found.1.1⟩, any_visible_iff.mp found.1.2, any_visible_iff.mp found.2⟩

/-- Of the places before `n` the last one at which the text divides is found. -/
theorem splitBackwards_eq_some_iff (bound : n ≤ text.length) (parts : SumParts) :
    splitBackwards (text.drop n) (text.take n).reverse = some parts
      ↔ ∃ i, IsGreatest {i | i < n ∧ DividesAt text i} i ∧ partsAt? text i = some parts := by
  induction n with
  | zero =>
    refine ⟨fun found => ?_, fun ⟨i, greatest, _⟩ => absurd greatest.1.1 (Nat.not_lt_zero i)⟩
    cases found
  | succ n ih =>
    by_cases here : DividesAt text n
    · have last : IsGreatest {i | i < n + 1 ∧ DividesAt text i} n :=
        ⟨⟨Nat.lt_succ_self n, here⟩, fun i place => Nat.le_of_lt_succ place.1⟩
      rw [splitBackwards_step_of_divides here]
      refine ⟨fun found => ⟨n, last, found⟩, ?_⟩
      rintro ⟨i, greatest, found⟩
      rw [greatest.unique last] at found
      exact found
    · have same : {i | i < n + 1 ∧ DividesAt text i} = {i | i < n ∧ DividesAt text i} := by
        ext i
        refine ⟨fun place => ⟨?_, place.2⟩, fun place => ⟨Nat.lt_succ_of_lt place.1, place.2⟩⟩
        refine Nat.lt_of_le_of_ne (Nat.le_of_lt_succ place.1) ?_
        rintro rfl
        exact here place.2
      rw [splitBackwards_step_of_not_divides bound here, ih (Nat.le_of_succ_le bound), same]

variable {parts : SumParts}

theorem splitSum?_eq_some_iff :
    splitSum? text = some parts
      ↔ ∃ i, IsGreatest {i | DividesAt text i} i ∧ partsAt? text i = some parts := by
  have places : {i | i < text.length ∧ DividesAt text i} = {i | DividesAt text i} := by
    ext i
    exact ⟨And.right, fun h => ⟨h.lt_length, h⟩⟩
  have whole := splitBackwards_eq_some_iff (Nat.le_refl text.length) parts
  rw [List.drop_length, List.take_length, places] at whole
  exact whole

theorem isSome_splitSum?_iff : (splitSum? text).isSome ↔ ∃ i, DividesAt text i := by
  constructor
  · intro divided
    obtain ⟨parts, found⟩ := Option.isSome_iff_exists.mp divided
    obtain ⟨i, greatest, -⟩ := splitSum?_eq_some_iff.mp found
    exact ⟨i, greatest.1⟩
  · intro somewhere
    have bounded : BddAbove {i | DividesAt text i} :=
      ⟨text.length, fun _ here => Nat.le_of_lt here.lt_length⟩
    obtain ⟨i, greatest⟩ := bounded.exists_isGreatest_of_nonempty somewhere
    obtain ⟨s, here, -⟩ := greatest.1.sign
    have found : partsAt? text i = some _ := congrArg (Option.map _) here
    exact Option.isSome_iff_exists.mpr ⟨_, splitSum?_eq_some_iff.mpr ⟨i, greatest, found⟩⟩

/-- The parts of a divided text are not blank, have no white space around them, and the left one is
shorter than the text. -/
structure SumParts.Within (parts : SumParts) (text : List Symbol) : Prop where
  left_ne_nil : parts.left ≠ []
  right_ne_nil : parts.right ≠ []
  left_trimmed : trimSymbols parts.left = parts.left
  right_trimmed : trimSymbols parts.right = parts.right
  left_shorter : parts.left.length < text.length

theorem within_of_splitSum? (h : splitSum? text = some parts) : parts.Within text := by
  obtain ⟨i, greatest, found⟩ := splitSum?_eq_some_iff.mp h
  obtain ⟨s, -, rfl⟩ := Option.map_eq_some_iff.mp found
  exact ⟨trimSymbols_ne_nil_of_visible greatest.1.before,
    trimSymbols_ne_nil_of_visible greatest.1.after, trimBy_trimBy _ _, trimBy_trimBy _ _,
    splitSum?_left_length h⟩

/-- The signs of a text. -/
def signCount (text : List Symbol) : Nat :=
  text.countP (isSign ·.reading)

/-- The sign at which a text is divided is not in its left part. -/
theorem signCount_left_lt (h : splitSum? text = some parts) :
    signCount parts.left < signCount text := by
  obtain ⟨left, s, right, rfl, sign, -, rfl⟩ := exists_of_splitSum? h
  have trimmed : signCount (trimSymbols left) ≤ signCount left :=
    (trimBy_isInfix Symbol.isBlank left).sublist.countP_le
  have here := List.countP_cons_of_pos (p := (isSign ·.reading)) (l := right) sign
  unfold signCount at *
  rw [List.countP_append, here]
  dsimp only
  omega

end

/-- The instant of a text by at most `steps` steps from a text to its left part. Nothing is answered
where it takes more of them. -/
def evaluateWithin (zone : Zone) (now : Instant) :
    Nat → List Symbol → Option (Except Failure Instant)
  | steps, text =>
    match Literal.read? (text.map Symbol.reading), splitSum? text with
    | some value, _ => some (value.toInstant (.ofSymbols text) zone now)
    | none, some parts =>
      match Duration.read parts.right, steps with
      | .error failure, _ => some (.error failure)
      | .ok _, 0 => none
      | .ok value, steps + 1 =>
        (evaluateWithin zone now steps parts.left).map fun base => base.bind fun i =>
          zone.land ((if parts.sign = '-' then value.negated else value).addTo (zone.dateTime i))
            (zone.offsetAt i)
    | none, none =>
      match Anchor.find? (text.map Symbol.reading), Duration.read? text with
      | some value, _ =>
        some (zone.land (value.resolve (zone.dateTime now) zone) (zone.offsetAt now))
      | none, .error failure => some (.error failure)
      | none, .ok (some value) =>
        some (zone.land (value.addTo (zone.dateTime now)) (zone.offsetAt now))
      | none, .ok none => some (.error (.unreadable (.ofSymbols text)))

variable {text : List Symbol} {steps : Nat}

/-- A text that is a literal or has no left part takes no step. -/
theorem evaluateWithin_of_alone
    (alone : (Literal.read? (text.map Symbol.reading)).isSome ∨ splitSum? text = none)
    (zone : Zone) (now : Instant) (steps : Nat) :
    evaluateWithin zone now steps text
      = some ((Expression.read text).bind (·.toInstant zone now)) := by
  rw [evaluateWithin]
  cases literal : Literal.read? (text.map Symbol.reading) with
  | some value =>
    rw [Expression.read_literal literal]
    rfl
  | none =>
    have undivided : splitSum? text = none := by simpa [literal] using alone
    rw [undivided]
    dsimp only
    cases anchor : Anchor.find? (text.map Symbol.reading) with
    | some value =>
      rw [Expression.read_anchor literal undivided anchor]
      rfl
    | none =>
      rw [Expression.read_duration literal undivided anchor]
      cases Duration.read? text with
      | error failure => rfl
      | ok value? => cases value? <;> rfl

/-- Each step leaves a sign behind, so that there are enough of them if there are as many as
signs. -/
theorem evaluateWithin_eq (enough : signCount text ≤ steps) (zone : Zone) (now : Instant) :
    evaluateWithin zone now steps text
      = some ((Expression.read text).bind (·.toInstant zone now)) := by
  induction steps generalizing text with
  | zero =>
    have undivided : splitSum? text = none := by
      rw [Option.eq_none_iff_forall_ne_some]
      intro parts split
      have fewer := signCount_left_lt split
      omega
    exact evaluateWithin_of_alone (.inr undivided) zone now 0
  | succ steps ih =>
    cases literal : Literal.read? (text.map Symbol.reading) with
    | some value => exact evaluateWithin_of_alone (.inl (by rw [literal]; rfl)) zone now _
    | none =>
      cases split : splitSum? text with
      | none => exact evaluateWithin_of_alone (.inr split) zone now _
      | some parts =>
        have fewer := signCount_left_lt split
        rw [evaluateWithin, literal, split, Expression.read_divided literal split]
        dsimp only
        cases Duration.read parts.right with
        | error failure => rfl
        | ok value =>
          dsimp only
          rw [ih (by omega)]
          cases Expression.read parts.left with
          | error failure => rfl
          | ok base => exact congrArg some (base.toInstant_sum _ zone now).symm

/-- A text is divided exactly where it has a sign with something other than white space on both
sides, at the last such sign. The parts are what stands before and after it without white space
around them. The left part is shorter, so that the text is evaluated by no more steps to a left part
than it has signs. -/
theorem splitSum?_at_last_sign (text : List Symbol) :
    ((splitSum? text).isSome ↔ ∃ i, DividesAt text i)
      ∧ (∀ parts, splitSum? text = some parts
        ↔ ∃ i, IsGreatest {i | DividesAt text i} i ∧ partsAt? text i = some parts)
      ∧ (∀ parts, splitSum? text = some parts → parts.Within text)
      ∧ ∀ zone now, evaluateWithin zone now (signCount text) text
        = some ((Expression.read text).bind (·.toInstant zone now)) :=
  ⟨isSome_splitSum?_iff, fun _ => splitSum?_eq_some_iff, fun _ => within_of_splitSum?,
    evaluateWithin_eq (Nat.le_refl _)⟩

/-- Of two signs on end the second one divides, and a sign at the end does not. -/
theorem splitSum?_at_last_sign_of_three :
    splitSum? (Text.ofChars "now\t--1d +".toList).symbols
        = some ⟨(Text.ofChars "now\t-".toList).symbols, '-', (Text.ofChars "1d +".toList).symbols⟩
      ∧ (⟨(Text.ofChars "now\t-".toList).symbols, '-', (Text.ofChars "1d +".toList).symbols⟩ :
        SumParts).Within (Text.ofChars "now\t--1d +".toList).symbols := by
  obtain ⟨-, -, within, -⟩ :=
    splitSum?_at_last_sign (Text.ofChars "now\t--1d +".toList).symbols
  have split : splitSum? (Text.ofChars "now\t--1d +".toList).symbols
      = some ⟨(Text.ofChars "now\t-".toList).symbols, '-', (Text.ofChars "1d +".toList).symbols⟩ :=
    by decide
  exact ⟨split, within _ split⟩

end Almanac
