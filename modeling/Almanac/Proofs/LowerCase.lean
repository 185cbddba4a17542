import Almanac.Expression.Anchor
import Almanac.Text.Basic
import Mathlib.Data.List.Forall2

namespace Almanac

section

variable {c : Char}

/-- The gaps are apart from all letters that have a lower case. -/
theorem lowerChar_of_isGap (h : isGap c = true) : lowerChar c = [c] := by
  have apart : ∀ run ∈ lowerRuns, 0x41 ≤ run.first ∧ (run.last < 0x5F ∨ 0xA0 < run.first
      ∧ (run.last < 0x1680 ∨ 0x1680 < run.first ∧ (run.last < 0x2000 ∨ 0x205F < run.first
        ∧ (run.last < 0x3000 ∨ 0x3000 < run.first)))) := by
    decide +kernel
  have code : c.toNat ≠ 0x130 ∧ (c.toNat ≤ 0x20 ∨ c.toNat = 0x5F ∨ c.toNat = 0x85 ∨ c.toNat = 0xA0
      ∨ c.toNat = 0x1680 ∨ 0x2000 ≤ c.toNat ∧ c.toNat ≤ 0x205F ∨ c.toNat = 0x3000) := by
    simp only [isGap, isBlank, Bool.or_eq_true, Bool.and_eq_true, decide_eq_true_eq,
      beq_iff_eq] at h
    rcases h with blank | rfl
    · omega
    · decide
  have none : lowerRuns.find? (fun run =>
      run.first ≤ c.toNat && c.toNat ≤ run.last && (c.toNat - run.first) % run.step == 0) = none := by
    rw [List.find?_eq_none]
    intro run mem inside
    have := apart run mem
    simp only [Bool.and_eq_true, decide_eq_true_eq] at inside
    omega
  unfold lowerChar
  rw [if_neg code.1, none]

theorem lower_singleton (h : c.toNat ≠ 0x3A3) : lower [c] = lowerChar c := by
  simp [lower, lowerFrom, h]

theorem lower_sigma (h : c.toNat = 0x3A3) : lower [c] = [Char.ofNat 0x3C3] := by
  have alone : leadsCased [] = false := by decide
  simp [lower, lowerFrom, h, alone]

theorem lower_of_isGap (h : isGap c = true) : lower [c] = [c] := by
  rw [lower_singleton, lowerChar_of_isGap h]
  intro sigma
  have same : c = Char.ofNat 0x3A3 := by rw [← sigma, Char.ofNat_toNat]
  rw [same] at h
  revert h
  decide

/-- Nothing but a space has a space as its lower case. -/
theorem eq_space_of_lower (h : lower [c] = [' ']) : c = ' ' := by
  have above : ∀ run ∈ lowerRuns, 0x20 < run.first + run.shift := by decide +kernel
  by_cases sigma : c.toNat = 0x3A3
  · rw [lower_sigma sigma] at h
    exact absurd h (by decide)
  · rw [lower_singleton sigma, lowerChar] at h
    split at h
    · simp at h
    · split at h
      next run found =>
        have inside := List.find?_some found
        have image := above run (List.mem_of_find?_eq_some found)
        have code := toNat_of_ofNat_eq (List.singleton_inj.mp h) (by decide)
        rw [show ' '.toNat = 0x20 from rfl] at code
        simp only [Bool.and_eq_true, decide_eq_true_eq] at inside
        omega
      · exact List.singleton_inj.mp h

/-- A character has one of its own kind as its lower case, but for the dotted capital I. -/
theorem lowerChar_cases (c : Char) :
    lowerChar c = ['i', Char.ofNat 0x307] ∨ ∃ d, lowerChar c = [d] := by
  unfold lowerChar
  split
  · exact .inl rfl
  · split
    · exact .inr ⟨_, rfl⟩
    · exact .inr ⟨_, rfl⟩

theorem lowerFrom_ne_nil (before : List Char) (c : Char) (rest : List Char) :
    lowerFrom before (c :: rest) ≠ [] := by
  rw [lowerFrom]
  apply List.append_ne_nil_of_left_ne_nil
  split
  · split <;> exact List.cons_ne_nil _ _
  · rcases lowerChar_cases c with dotted | ⟨d, single⟩
    · simp [dotted]
    · simp [single]

/-- What a character becomes where it stands has all of ASCII in common with what it becomes by
itself. -/
theorem lowerFrom_eq_cons_iff {before rest ks : List Char} {k : Char} (plain : k.toNat < 0x80)
    (next : ∀ k ∈ ks.head?, k.toNat < 0x80) :
    lowerFrom before (c :: rest) = k :: ks ↔ lower [c] = [k] ∧ lowerFrom (c :: before) rest = ks := by
  rw [lowerFrom]
  by_cases sigma : c.toNat = 0x3A3
  · have other : k ≠ Char.ofNat 0x3C2 ∧ k ≠ Char.ofNat 0x3C3 := by
      constructor
      · rintro rfl
        exact absurd plain (by decide)
      · rintro rfl
        exact absurd plain (by decide)
    rw [if_pos sigma, lower_sigma sigma]
    split <;> simp [other.1.symm, other.2.symm]
  · rw [if_neg sigma, lower_singleton sigma]
    rcases lowerChar_cases c with dotted | ⟨d, single⟩
    · have apart : ks ≠ Char.ofNat 0x307 :: lowerFrom (c :: before) rest := by
        rintro rfl
        exact absurd (next _ rfl) (by decide)
      simp [dotted, apart.symm]
    · simp [single]

end

/-- A character has a letter as its lower case. -/
def LowersTo (k c : Char) : Prop :=
  lower [c] = [k]

/-- As long as the result is ASCII, a text has it as its lower case letter by letter, for neither a
sigma nor a dotted capital I comes near it. -/
theorem lower_eq_iff {ks text : List Char} (plain : ∀ k ∈ ks, k.toNat < 0x80) :
    lower text = ks ↔ List.Forall₂ LowersTo ks text := by
  have general (before : List Char) : lowerFrom before text = ks ↔ List.Forall₂ LowersTo ks text := by
    induction text generalizing before ks with
    | nil => rw [lowerFrom, List.forall₂_nil_right_iff, eq_comm]
    | cons c rest ih =>
      cases ks with
      | nil =>
        simp [lowerFrom_ne_nil]
      | cons k ks =>
        have first := plain k List.mem_cons_self
        have others : ∀ k ∈ ks, k.toNat < 0x80 := fun k mem => plain k (List.mem_cons_of_mem _ mem)
        have next : ∀ k ∈ ks.head?, k.toNat < 0x80 := fun k head => others k (List.mem_of_head? head)
        rw [lowerFrom_eq_cons_iff first next, List.forall₂_cons, ih others]
        rfl
  exact general []

end Almanac
