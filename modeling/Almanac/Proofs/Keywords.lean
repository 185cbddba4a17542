import Almanac.Expression.Anchor
import Almanac.Proofs.Digits
import Almanac.Proofs.Trimming
import Mathlib.Data.List.Nodup

namespace Almanac

theorem keywordForm_trim (text : List Char) : keywordForm (trim text) = keywordForm text := by
  unfold keywordForm trim
  rw [trimBy_trimBy]

theorem not_isBlank_of_not_isGap {c : Char} (h : isGap c = false) : isBlank c = false :=
  (Bool.or_eq_false_iff.mp h).1

/-- A character that stands for itself in the form in which a text is compared with keywords. -/
structure KeepsItself (c : Char) : Prop where
  gap : isGap c = false
  sigma : c.toNat ≠ 0x3A3
  lower : lowerChar c = [c]

/-- The signs, the colon and the digits 0 to 9. -/
def isMark (c : Char) : Bool :=
  isSign c || c == ':' || c.isDigit

theorem isMark_of_isSign {c : Char} (h : isSign c = true) : isMark c = true := by
  simp [isMark, h]

theorem isMark_of_isDigit {c : Char} (h : c.isDigit = true) : isMark c = true := by
  simp [isMark, h]

theorem keepsItself_of_isDigit {c : Char} (h : c.isDigit = true) : KeepsItself c := by
  have all : ∀ k < 10, isGap (Char.ofNat (48 + k)) = false ∧ (Char.ofNat (48 + k)).toNat ≠ 0x3A3
      ∧ lowerChar (Char.ofNat (48 + k)) = [Char.ofNat (48 + k)] := by decide
  obtain ⟨low, high⟩ := isDigit_iff.mp h
  obtain ⟨gap, sigma, lower⟩ := all (c.toNat - 48) (by omega)
  rw [Nat.add_sub_cancel' low, Char.ofNat_toNat] at gap sigma lower
  exact ⟨gap, sigma, lower⟩

theorem keepsItself_of_isMark {c : Char} (h : isMark c = true) : KeepsItself c := by
  simp only [isMark, isSign, Bool.or_eq_true, beq_iff_eq] at h
  rcases h with ((rfl | rfl) | rfl) | digit
  · exact ⟨by decide, by decide, by decide⟩
  · exact ⟨by decide, by decide, by decide⟩
  · exact ⟨by decide, by decide, by decide⟩
  · exact keepsItself_of_isDigit digit

namespace KeepsItself

variable {c : Char} {text : List Char}

theorem mem_collapseGaps (h : KeepsItself c) (mem : c ∈ text) : c ∈ collapseGaps text := by
  fun_induction collapseGaps text with
  | case1 => exact mem
  | case2 d rest gap next ih =>
    rcases List.mem_cons.mp mem with rfl | later
    · rw [h.gap] at gap
      cases gap
    · exact ih later
  | case3 d rest gap last ih =>
    rcases List.mem_cons.mp mem with rfl | later
    · rw [h.gap] at gap
      cases gap
    · exact List.mem_cons_of_mem _ (ih later)
  | case4 d rest gap ih =>
    rcases List.mem_cons.mp mem with rfl | later
    · exact List.mem_cons_self
    · exact List.mem_cons_of_mem _ (ih later)

theorem mem_lowerFrom (h : KeepsItself c) (mem : c ∈ text) (before : List Char) :
    c ∈ lowerFrom before text := by
  induction text generalizing before with
  | nil => exact mem
  | cons d rest ih =>
    unfold lowerFrom
    apply List.mem_append.mpr
    rcases List.mem_cons.mp mem with rfl | later
    · left
      rw [if_neg h.sigma, h.lower]
      exact List.mem_singleton_self c
    · right
      exact ih later _

theorem mem_keywordForm (h : KeepsItself c) (mem : c ∈ text) : c ∈ keywordForm text := by
  have visible := not_isBlank_of_not_isGap h.gap
  exact h.mem_lowerFrom (h.mem_collapseGaps (mem_trimBy mem visible)) []

end KeepsItself

namespace Anchor

theorem nodup_keywords : (all.map fun a => a.keyword.toList).Nodup := by
  decide +kernel

theorem keyword_injective {a b : Anchor} (h : a.keyword.toList = b.keyword.toList) : a = b :=
  List.inj_on_of_nodup_map nodup_keywords (mem_all a) (mem_all b) h

/-- An anchor is found by its keyword alone, in whichever case and with whichever gaps. -/
theorem find?_eq_some_iff {text : List Char} {a : Anchor} :
    find? text = some a ↔ keywordForm text = a.keyword.toList := by
  have keyword {b : Anchor} (found : find? text = some b) :
      keywordForm text = b.keyword.toList := by
    have named := List.find?_some found
    exact (of_decide_eq_true named).symm
  refine ⟨keyword, fun spelled => ?_⟩
  cases found : find? text with
  | none => exact absurd (decide_eq_true spelled.symm) (List.find?_eq_none.mp found a (mem_all a))
  | some b => rw [keyword_injective ((keyword found).symm.trans spelled)]

theorem find?_trim (text : List Char) : find? (trim text) = find? text := by
  unfold find?
  rw [keywordForm_trim]

theorem not_isMark_of_mem_keyword (a : Anchor) : ∀ c ∈ a.keyword.toList, isMark c = false := by
  have all : a.keyword.toList.all (!isMark ·) = true := by cases a <;> decide +kernel
  intro c mem
  have plain := List.all_eq_true.mp all c mem
  rwa [Bool.not_eq_true'] at plain

/-- A text that holds a mark is no anchor. -/
theorem find?_of_isMark {c : Char} {text : List Char} (h : isMark c = true) (mem : c ∈ text) :
    find? text = none := by
  apply List.find?_eq_none.mpr
  intro a _ named
  have same : a.keyword.toList = keywordForm text := of_decide_eq_true named
  have listed := (keepsItself_of_isMark h).mem_keywordForm mem
  rw [← same] at listed
  rw [a.not_isMark_of_mem_keyword c listed] at h
  cases h

end Anchor

end Almanac
