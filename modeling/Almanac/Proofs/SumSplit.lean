import Almanac.Expression.Sum
import Almanac.Proofs.Trimming

namespace Almanac

/-- A text with characters added to its end. -/
def Text.followedBy (t : Text) (cs : List Char) : Text :=
  ⟨t.symbols ++ cs.map .char⟩

theorem Text.symbols_followedBy (t : Text) (cs : List Char) :
    (t.followedBy cs).symbols = t.symbols ++ cs.map .char :=
  rfl

theorem Text.followedBy_append (t : Text) (cs ds : List Char) :
    t.followedBy (cs ++ ds) = (t.followedBy cs).followedBy ds := by
  simp [followedBy]

theorem splitBackwards_append {xs : List Symbol} (plain : ∀ s ∈ xs, isSign s.reading = false)
    (after before : List Symbol) :
    splitBackwards after (xs ++ before) = splitBackwards (xs.reverse ++ after) before := by
  induction xs generalizing after with
  | nil => rfl
  | cons s xs ih =>
    obtain ⟨head, tail⟩ := List.forall_mem_cons.mp plain
    rw [List.cons_append, splitBackwards, head, ih tail]
    simp

theorem exists_of_splitBackwards {after before : List Symbol} {parts : SumParts}
    (h : splitBackwards after before = some parts) :
    ∃ passed s rest, before = passed ++ s :: rest ∧ isSign s.reading = true
      ∧ rest.any (!·.isBlank) = true
      ∧ parts = ⟨trimSymbols rest.reverse, s.reading, trimSymbols (passed.reverse ++ after)⟩ := by
  induction before generalizing after with
  | nil => cases h
  | cons s before ih =>
    unfold splitBackwards at h
    split at h
    next found =>
      cases h
      simp only [Bool.and_eq_true] at found
      exact ⟨[], s, before, rfl, found.1.1, found.1.2, rfl⟩
    · obtain ⟨passed, s', rest, rfl, sign, shown, eq⟩ := ih h
      refine ⟨s :: passed, s', rest, rfl, sign, shown, ?_⟩
      rw [eq, List.reverse_cons, List.append_assoc, List.singleton_append]

/-- A text is only divided at one of its signs, with something other than blanks before it. -/
theorem exists_of_splitSum? {text : List Symbol} {parts : SumParts}
    (h : splitSum? text = some parts) :
    ∃ left s right, text = left ++ s :: right ∧ isSign s.reading = true
      ∧ left.any (!·.isBlank) = true
      ∧ parts = ⟨trimSymbols left, s.reading, trimSymbols right⟩ := by
  obtain ⟨passed, s, rest, eq, sign, shown, parts_eq⟩ := exists_of_splitBackwards h
  refine ⟨rest.reverse, s, passed.reverse, ?_, sign, ?_, ?_⟩
  · rw [← List.reverse_reverse text, eq]
    simp
  · rw [List.any_reverse]
    exact shown
  · rw [parts_eq, List.append_nil]

/-- A text is divided at its last sign between parts that are not blank. -/
theorem splitSum?_append {left right : List Symbol} {s : Symbol} (sign : isSign s.reading = true)
    (hl : left.any (!·.isBlank) = true) (hr : right.any (!·.isBlank) = true)
    (plain : ∀ x ∈ right, isSign x.reading = false) :
    splitSum? (left ++ s :: right) = some ⟨trimSymbols left, s.reading, trimSymbols right⟩ := by
  have backwards : (left ++ s :: right).reverse = right.reverse ++ s :: left.reverse := by simp
  unfold splitSum?
  rw [backwards, splitBackwards_append fun x hx => plain x (List.mem_reverse.mp hx),
    List.reverse_reverse, List.append_nil, splitBackwards, sign, hr, List.any_reverse, hl,
    List.reverse_reverse]
  rfl

end Almanac
