import Almanac.Text.Basic
import Almanac.Zone.Offset

namespace Almanac

/-- A text divided at a plus or minus sign. -/
structure SumParts where
  left : List Symbol
  sign : Char
  right : List Symbol
deriving DecidableEq

/-- Divides at the last sign of `before.reverse` that has something other than white space on both
sides, where `after` comes next in the text. -/
def splitBackwards (after : List Symbol) : List Symbol → Option SumParts
  | [] => none
  | s :: before =>
    if isSign s.reading && before.any (!·.isBlank) && after.any (!·.isBlank) then
      some ⟨trimSymbols before.reverse, s.reading, trimSymbols after⟩
    else splitBackwards (s :: after) before

/-- Divides a text at the last sign that stands between two parts that are not blank. -/
def splitSum? (text : List Symbol) : Option SumParts :=
  splitBackwards [] text.reverse

theorem length_dropWhile_le {α : Type} (p : α → Bool) (xs : List α) :
    (xs.dropWhile p).length ≤ xs.length :=
  (List.dropWhile_sublist p).length_le

theorem length_trimBy_le {α : Type} (blank : α → Bool) (xs : List α) :
    (trimBy blank xs).length ≤ xs.length := by
  have h := length_dropWhile_le blank (xs.dropWhile blank).reverse
  have h' := length_dropWhile_le blank xs
  simp only [trimBy, List.length_reverse] at h ⊢
  omega

theorem length_trimSymbols_le (text : List Symbol) : (trimSymbols text).length ≤ text.length :=
  length_trimBy_le Symbol.isBlank text

theorem splitBackwards_left_length {after before : List Symbol} {parts : SumParts}
    (h : splitBackwards after before = some parts) : parts.left.length < before.length := by
  induction before generalizing after with
  | nil => simp [splitBackwards] at h
  | cons s before ih =>
    unfold splitBackwards at h
    split at h
    · cases Option.some.inj h
      have := length_trimSymbols_le before.reverse
      simp only [List.length_reverse, List.length_cons] at this ⊢
      omega
    · have := ih h
      simp only [List.length_cons]
      omega

theorem splitSum?_left_length {text : List Symbol} {parts : SumParts}
    (h : splitSum? text = some parts) : parts.left.length < text.length := by
  simpa using splitBackwards_left_length h

end Almanac
