import Almanac.Text.Basic
import Mathlib.Data.List.DropRight
import Mathlib.Data.List.TakeWhile

namespace Almanac

section

variable {α : Type} {blank : α → Bool} {xs ys : List α}

theorem trimBy_eq_rdropWhile (blank : α → Bool) (xs : List α) :
    trimBy blank xs = (xs.dropWhile blank).rdropWhile blank :=
  rfl

/-- Nothing is trimmed from a text that begins and ends with something other than blanks. -/
theorem trimBy_of_ends {first last : α} (begins : xs.head? = some first)
    (ends : xs.getLast? = some last) (hf : blank first = false) (hl : blank last = false) :
    trimBy blank xs = xs := by
  obtain ⟨rest, rfl⟩ := List.head?_eq_some_iff.mp begins
  have kept : (first :: rest).dropWhile blank = first :: rest :=
    List.dropWhile_cons_of_neg (by simp [hf])
  rw [trimBy_eq_rdropWhile, kept, List.rdropWhile_eq_self_iff]
  intro nonempty
  rw [List.getLast?_eq_some_getLast nonempty] at ends
  simp [Option.some.inj ends, hl]

theorem trimBy_of_visible (visible : ∀ x ∈ xs, blank x = false) : trimBy blank xs = xs := by
  have kept : xs.dropWhile blank = xs := by
    rw [List.dropWhile_eq_self_iff]
    intro positive
    simp [visible _ (List.getElem_mem positive)]
  rw [trimBy_eq_rdropWhile, kept, List.rdropWhile_eq_self_iff]
  intro nonempty
  simp [visible _ (List.getLast_mem nonempty)]

theorem trimBy_append_blank (h : ∀ y ∈ ys, blank y = true) :
    trimBy blank (xs ++ ys) = trimBy blank xs := by
  have none : ys.dropWhile blank = [] := List.dropWhile_eq_nil_iff.mpr h
  rw [trimBy_eq_rdropWhile, trimBy_eq_rdropWhile, List.dropWhile_append]
  split
  next empty =>
    rw [List.isEmpty_iff.mp empty, none]
  · rw [List.rdropWhile, List.rdropWhile, List.reverse_append,
      List.dropWhile_append_of_pos fun y hy => h y (List.mem_reverse.mp hy)]

theorem trimBy_blank_append (h : ∀ x ∈ xs, blank x = true) :
    trimBy blank (xs ++ ys) = trimBy blank ys := by
  rw [trimBy_eq_rdropWhile, trimBy_eq_rdropWhile, List.dropWhile_append_of_pos h]

theorem trimBy_dropWhile : trimBy blank (xs.dropWhile blank) = trimBy blank xs := by
  rw [trimBy_eq_rdropWhile, trimBy_eq_rdropWhile, List.dropWhile_idempotent]

theorem dropWhile_ne_nil (h : trimBy blank xs ≠ []) : xs.dropWhile blank ≠ [] := by
  intro empty
  rw [trimBy_eq_rdropWhile, empty] at h
  exact h rfl

theorem any_dropWhile (h : trimBy blank xs ≠ []) :
    (xs.dropWhile blank).any (!blank ·) = true := by
  by_contra none
  have all : ∀ x ∈ xs, blank x = true := by simpa using none
  exact dropWhile_ne_nil h (List.dropWhile_eq_nil_iff.mpr all)

/-- What is added to a text that is not blank keeps its blanks but for those at its end. -/
theorem trimBy_append {last : α} (h : trimBy blank xs ≠ []) (ends : ys.getLast? = some last)
    (hl : blank last = false) : trimBy blank (xs ++ ys) = xs.dropWhile blank ++ ys := by
  have nonempty := dropWhile_ne_nil h
  rw [trimBy_eq_rdropWhile, List.dropWhile_append, if_neg (by simpa using nonempty),
    List.rdropWhile_eq_self_iff]
  intro whole
  have same : (xs.dropWhile blank ++ ys).getLast? = some last := by
    rw [List.getLast?_append, ends]
    rfl
  rw [List.getLast?_eq_some_getLast whole] at same
  simp [Option.some.inj same, hl]

/-- A text is its trimmed part with blanks around it. -/
theorem exists_trimBy (blank : α → Bool) (xs : List α) :
    ∃ lead trail, xs = lead ++ (trimBy blank xs ++ trail) ∧ (∀ x ∈ lead, blank x = true)
      ∧ ∀ x ∈ trail, blank x = true := by
  have front := List.takeWhile_append_dropWhile (p := blank) (l := xs)
  have back := List.takeWhile_append_dropWhile (p := blank) (l := (xs.dropWhile blank).reverse)
  have kept : xs.dropWhile blank
      = trimBy blank xs ++ ((xs.dropWhile blank).reverse.takeWhile blank).reverse := by
    rw [trimBy, ← List.reverse_append, back, List.reverse_reverse]
  refine ⟨_, _, front.symm.trans (congrArg _ kept), fun x h => List.mem_takeWhile_imp h, ?_⟩
  intro x h
  exact List.mem_takeWhile_imp (List.mem_reverse.mp h)

theorem trimBy_trimBy (blank : α → Bool) (xs : List α) :
    trimBy blank (trimBy blank xs) = trimBy blank xs := by
  obtain ⟨lead, trail, eq, hl, ht⟩ := exists_trimBy blank xs
  have same := congrArg (trimBy blank) eq
  rw [trimBy_blank_append hl, trimBy_append_blank ht] at same
  exact same.symm

theorem map_trimBy {β : Type} (f : β → α) (ys : List β) :
    (trimBy (blank ∘ f) ys).map f = trimBy blank (ys.map f) := by
  unfold trimBy
  rw [List.map_reverse, ← List.dropWhile_map, List.map_reverse, ← List.dropWhile_map]

theorem trimBy_isInfix (blank : α → Bool) (xs : List α) : trimBy blank xs <:+: xs := by
  obtain ⟨lead, trail, eq, -, -⟩ := exists_trimBy blank xs
  exact ⟨lead, trail, by rw [List.append_assoc, ← eq]⟩

theorem mem_trimBy {x : α} (h : x ∈ xs) (visible : blank x = false) : x ∈ trimBy blank xs := by
  obtain ⟨lead, trail, eq, before, after⟩ := exists_trimBy blank xs
  rw [eq] at h
  rcases List.mem_append.mp h with hx | hx
  · rw [before x hx] at visible
    cases visible
  · rcases List.mem_append.mp hx with hx | hx
    · exact hx
    · rw [after x hx] at visible
      cases visible

theorem trimBy_eq_nil_iff : trimBy blank xs = [] ↔ ∀ x ∈ xs, blank x = true := by
  constructor
  · intro empty x mem
    by_contra visible
    have kept := mem_trimBy mem (eq_false_of_ne_true visible)
    rw [empty] at kept
    exact List.not_mem_nil kept
  · intro all
    rw [← List.append_nil xs, trimBy_blank_append all]
    rfl

end

theorem trimSymbols_map_char {cs : List Char} (visible : ∀ c ∈ cs, isBlank c = false) :
    trimSymbols (cs.map .char) = cs.map .char :=
  trimBy_of_visible (List.forall_mem_map.mpr visible)

theorem map_reading_trimSymbols (text : List Symbol) :
    (trimSymbols text).map Symbol.reading = trim (text.map Symbol.reading) :=
  map_trimBy Symbol.reading text

theorem map_reading_char (cs : List Char) : (cs.map Symbol.char).map Symbol.reading = cs := by
  simp [Function.comp_def, Symbol.reading]

/-- A text without surrogates is made of the characters as which it is read. -/
theorem map_char_reading {text : List Symbol}
    (plain : ∀ c ∈ text.map Symbol.reading, c ≠ Char.ofNat 0xE000) :
    (text.map Symbol.reading).map Symbol.char = text := by
  rw [List.map_map]
  refine List.map_congr_left ?_ |>.trans text.map_id
  intro s mem
  cases s with
  | char c => rfl
  | surrogate s => exact absurd rfl (plain _ (List.mem_map_of_mem mem))

end Almanac
