import Almanac.Proofs.RuleNeighbors
import Mathlib.Data.List.Chain

namespace Almanac

namespace OffsetChange

def Apart (c d : OffsetChange) : Prop :=
  c.second + fiveDays ≤ d.second

/-- One change and the next: five days or more apart, and clocks are set forward by at most a day. -/
def Before (c d : OffsetChange) : Prop :=
  c.second + fiveDays ≤ d.second ∧ d.offset - c.offset ≤ secondsPerDay

instance : DecidableRel Before := fun _ _ =>
  inferInstanceAs (Decidable (_ ∧ _))

instance : Trans Apart Apart Apart where
  trans {a b c} first second := by
    unfold Apart fiveDays at *
    omega

end OffsetChange

/-- A rule that takes over after a change, five days or more later. -/
def YearlyRule.TakesOver (r : YearlyRule) (z : ZoneRules) (last : OffsetChange) : Prop :=
  (∀ a ∈ [last.offset, r.standard, r.daylight], ∀ b ∈ [r.standard, r.daylight],
      b - a ≤ secondsPerDay)
    ∧ ∀ c ∈ z.yearlyChanges last.second, last.second + fiveDays ≤ c.second

instance (r : YearlyRule) (z : ZoneRules) (last : OffsetChange) : Decidable (r.TakesOver z last) :=
  inferInstanceAs (Decidable (_ ∧ _))

/-- What the rules of real zones have in common: their clocks are at most fifteen hours away from
UTC, their changes lie in the years 4 to 9996 and leave every offset in effect for five days, and a
yearly rule takes over after the last one. -/
structure ZoneRules.Regular (z : ZoneRules) : Prop where
  bounded : ∀ offset ∈ z.offsets, -54000 ≤ offset ∧ offset ≤ 54000
  range : ∀ c ∈ z.changes, newYearSecond 4 ≤ c.second ∧ c.second < newYearSecond 9997
  first : ∀ c ∈ z.changes.head?, c.offset - z.initial ≤ secondsPerDay
  chain : z.changes.IsChain OffsetChange.Before
  tail : ∀ r ∈ z.yearly, r.Proper ∧ ∃ last ∈ z.changes.getLast?, r.TakesOver z last

instance (z : ZoneRules) : Decidable z.Regular :=
  decidable_of_iff
    ((∀ offset ∈ z.offsets, -54000 ≤ offset ∧ offset ≤ 54000)
      ∧ (∀ c ∈ z.changes, newYearSecond 4 ≤ c.second ∧ c.second < newYearSecond 9997)
      ∧ (∀ c ∈ z.changes.head?, c.offset - z.initial ≤ secondsPerDay)
      ∧ z.changes.IsChain OffsetChange.Before
      ∧ ∀ r ∈ z.yearly, r.Proper ∧ ∃ last ∈ z.changes.getLast?, r.TakesOver z last)
    ⟨fun ⟨bounded, range, first, chain, tail⟩ => ⟨bounded, range, first, chain, tail⟩,
      fun h => ⟨h.bounded, h.range, h.first, h.chain, h.tail⟩⟩

namespace ZoneRules

theorem yearlyChanges_of_some {z : ZoneRules} {r : YearlyRule} (h : z.yearly = some r)
    (second : Int) :
    z.yearlyChanges second
      = (r.around second).filter fun c => z.changes.all fun d => d.second < c.second := by
  unfold yearlyChanges
  rw [h]
  rfl

theorem later_of_mem_yearlyChanges {z : ZoneRules} {second : Int} {c d : OffsetChange}
    (hc : c ∈ z.yearlyChanges second) (hd : d ∈ z.changes) : d.second < c.second := by
  cases h : z.yearly with
  | none => simp [yearlyChanges, h] at hc
  | some r =>
    rw [yearlyChanges_of_some h] at hc
    have later := (List.mem_filter.mp hc).2
    simpa using List.all_eq_true.mp later d hd

theorem offsetAt_of_split {z : ZoneRules} {xs ys : List OffsetChange} {c : OffsetChange}
    {second : Int} (split : z.changes = xs ++ c :: ys) (made : c.second ≤ second)
    (later : ∀ d ∈ ys ++ z.yearlyChanges second, second < d.second) :
    z.offsetAt second = c.offset := by
  rw [offsetAt_eq, split, List.append_assoc, List.cons_append]
  exact lastOffset_of_split made later _

theorem offsetAt_of_later {z : ZoneRules} {second : Int}
    (later : ∀ d ∈ z.changes ++ z.yearlyChanges second, second < d.second) :
    z.offsetAt second = z.initial := by
  rw [offsetAt_eq]
  exact lastOffset_of_later later _

/-- From the last listed change on, a zone has the offset of that change or one of its rule. -/
theorem offsetAt_mem_of_last {z : ZoneRules} {r : YearlyRule} {last : OffsetChange} {second : Int}
    (yearly : z.yearly = some r) (hl : last ∈ z.changes.getLast?) (low : last.second ≤ second) :
    z.offsetAt second ∈ [last.offset, r.standard, r.daylight] := by
  obtain ⟨xs, eq⟩ := List.getLast?_eq_some_iff.mp hl
  have start : lastOffset second z.changes z.initial = last.offset := by
    rw [eq]
    exact lastOffset_of_split low (fun d hd => absurd hd List.not_mem_nil) _
  rw [offsetAt_eq, lastOffset_append, start]
  rcases lastOffset_mem second (z.yearlyChanges second) last.offset with same | ⟨c, hc, same⟩
  · simp [same]
  · obtain ⟨r', hr', offset⟩ := offset_of_mem_yearlyChanges hc
    cases Option.some.inj (yearly.symm.trans hr')
    rw [same]
    rcases offset with offset | offset <;> simp [offset]

namespace Regular

variable {z : ZoneRules}

theorem withinDay (h : z.Regular) : z.WithinDay := by
  intro offset mem
  have range := h.bounded offset mem
  unfold secondsPerDay
  omega

theorem offset_range (h : z.Regular) (second : Int) :
    -54000 ≤ z.offsetAt second ∧ z.offsetAt second ≤ 54000 :=
  h.bounded _ (z.offsetAt_mem_offsets second)

theorem sorted (h : z.Regular) : z.changes.Pairwise OffsetChange.Apart :=
  List.isChain_iff_pairwise.mp (h.chain.imp fun _ _ before => before.1)

theorem le_last (h : z.Regular) {last c : OffsetChange} (hl : last ∈ z.changes.getLast?)
    (hc : c ∈ z.changes) : c.second ≤ last.second := by
  obtain ⟨xs, eq⟩ := List.getLast?_eq_some_iff.mp hl
  have sorted := h.sorted
  rw [eq] at sorted hc
  rcases List.mem_append.mp hc with earlier | same
  · have apart : c.Apart last := (List.pairwise_append.mp sorted).2.2 c earlier last (by simp)
    unfold OffsetChange.Apart fiveDays at apart
    omega
  · exact Int.le_of_eq (congrArg OffsetChange.second (List.mem_singleton.mp same))

/-- What follows the last listed change is decided by the changes of the rule after it. -/
theorem yearlyChanges_of_split (h : z.Regular) {r : YearlyRule} {last c : OffsetChange}
    {xs ys : List OffsetChange} {second : Int} (yearly : z.yearly = some r)
    (hl : last ∈ z.changes.getLast?) (split : r.around second = xs ++ c :: ys)
    (late : last.second < c.second) (later : ∀ d ∈ ys, c.second < d.second) :
    z.yearlyChanges second
      = xs.filter (fun d => z.changes.all fun e => e.second < d.second) ++ c :: ys := by
  have passes (d : OffsetChange) (hd : last.second < d.second) :
      (z.changes.all fun e => e.second < d.second) = true := by
    rw [List.all_eq_true]
    intro e he
    have := h.le_last hl he
    simp only [decide_eq_true_eq]
    omega
  have rest := List.filter_eq_self.mpr fun d hd => passes d (by have := later d hd; omega)
  rw [yearlyChanges_of_some yearly, split, List.filter_append, List.filter_cons, rest,
    if_pos (passes c late)]

theorem later_of_split (h : z.Regular) {xs ys : List OffsetChange} {c d : OffsetChange}
    (split : z.changes = xs ++ c :: ys) {second : Int}
    (hd : d ∈ ys ++ z.yearlyChanges second) : c.second < d.second := by
  rcases List.mem_append.mp hd with listed | yearly
  · have sorted := h.sorted
    rw [split] at sorted
    have apart : c.Apart d :=
      (List.pairwise_cons.mp (List.pairwise_append.mp sorted).2.1).1 d listed
    unfold OffsetChange.Apart fiveDays at apart
    omega
  · exact later_of_mem_yearlyChanges yearly (by rw [split]; simp)

theorem offsetAt_change (h : z.Regular) {xs ys : List OffsetChange} {c : OffsetChange}
    (split : z.changes = xs ++ c :: ys) : z.offsetAt c.second = c.offset :=
  offsetAt_of_split split (Int.le_refl _) fun _ hd => h.later_of_split split hd

theorem offsetAt_of_next (h : z.Regular) {xs ys : List OffsetChange} {c d : OffsetChange}
    (split : z.changes = xs ++ c :: d :: ys) {second : Int} (low : c.second ≤ second)
    (high : second < d.second) : z.offsetAt second = c.offset := by
  have shifted : z.changes = (xs ++ [c]) ++ d :: ys :=
    split.trans (List.append_cons xs c (d :: ys))
  refine offsetAt_of_split split low fun e he => ?_
  rw [List.cons_append, List.mem_cons] at he
  rcases he with rfl | he
  · exact high
  · have := h.later_of_split shifted he
    omega

theorem offsetAt_of_first (h : z.Regular) {c : OffsetChange} {ys : List OffsetChange}
    (split : z.changes = c :: ys) {second : Int} (before : second < c.second) :
    z.offsetAt second = z.initial := by
  have split' : z.changes = [] ++ c :: ys := split
  refine offsetAt_of_later fun d hd => ?_
  rw [split, List.cons_append, List.mem_cons] at hd
  rcases hd with rfl | hd
  · exact before
  · have := h.later_of_split split' hd
    omega

theorem offsetAt_of_nil (h : z.Regular) (empty : z.changes = []) (second : Int) :
    z.offsetAt second = z.initial := by
  refine offsetAt_of_later fun d hd => ?_
  cases yearly : z.yearly with
  | none => simp [empty, yearlyChanges, yearly] at hd
  | some r =>
    obtain ⟨-, last, hl, -⟩ := h.tail r yearly
    simp [empty] at hl

theorem offsetAt_of_early (h : z.Regular) {second : Int} (early : second < newYearSecond 4) :
    z.offsetAt second = z.initial := by
  cases split : z.changes with
  | nil => exact h.offsetAt_of_nil split second
  | cons c ys =>
    have start := (h.range c (by simp [split])).1
    exact h.offsetAt_of_first split (by omega)

/-- Without a yearly rule offsets do not change after the year 9996. -/
theorem offsetAt_of_late (h : z.Regular) (yearly : z.yearly = none) {second : Int}
    (late : newYearSecond 9997 ≤ second) : z.offsetAt second = z.offsetAt (newYearSecond 9997) := by
  have quiet (s : Int) : z.yearlyChanges s = [] := by simp [yearlyChanges, yearly]
  rcases List.eq_nil_or_concat' z.changes with empty | ⟨xs, last, split⟩
  · rw [h.offsetAt_of_nil empty, h.offsetAt_of_nil empty]
  · have before := (h.range last (by simp [split])).2
    have same : ∀ s, newYearSecond 9997 ≤ s → z.offsetAt s = last.offset := fun s hs =>
      offsetAt_of_split split (by omega) (by simp [quiet])
    rw [same _ late, same _ (Int.le_refl _)]

end Regular

end ZoneRules

end Almanac
