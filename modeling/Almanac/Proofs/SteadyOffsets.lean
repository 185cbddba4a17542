import Almanac.Proofs.RegularRules

namespace Almanac

namespace ZoneRules

namespace Regular

variable {z : ZoneRules}

/-- Between two changes of the rule, of which the first comes after all listed ones, the first is
the last one made. -/
theorem yearlyChanges_of_neighbors (h : z.Regular) {r : YearlyRule} {last c d : OffsetChange}
    (yearly : z.yearly = some r) (hl : last ∈ z.changes.getLast?) (near : r.Neighbors c d)
    (late : last.second < c.second) {second : Int} (low : c.second ≤ second)
    (high : second < d.second) :
    ∃ xs ys, z.yearlyChanges second = xs ++ c :: ys ∧ ∀ e ∈ ys, second < e.second := by
  have long := near.long
  unfold fiveDays at long
  obtain ⟨xs, ys, split, -, later⟩ := near.split second low high
  have order : ∀ e ∈ d :: ys, c.second < e.second := by
    simp only [List.mem_cons, forall_eq_or_imp]
    exact ⟨by omega, fun e he => by have := later e he; omega⟩
  refine ⟨_, d :: ys, h.yearlyChanges_of_split yearly hl split late order, ?_⟩
  simp only [List.mem_cons, forall_eq_or_imp]
  exact ⟨high, fun e he => by have := later e he; omega⟩

theorem offsetAt_of_neighbors (h : z.Regular) {r : YearlyRule} {last c d : OffsetChange}
    (yearly : z.yearly = some r) (hl : last ∈ z.changes.getLast?) (near : r.Neighbors c d)
    (late : last.second < c.second) {second : Int} (low : c.second ≤ second)
    (high : second < d.second) : z.offsetAt second = c.offset := by
  obtain ⟨xs, ys, rest, later⟩ := h.yearlyChanges_of_neighbors yearly hl near late low high
  rw [offsetAt_eq, rest, ← List.append_assoc]
  exact lastOffset_of_split low later _

theorem lasts_of_neighbors (h : z.Regular) {r : YearlyRule} {last c d : OffsetChange}
    (yearly : z.yearly = some r) (hl : last ∈ z.changes.getLast?) (near : r.Neighbors c d)
    (late : last.second < c.second) :
    z.Lasts c.second d.second ∧ z.offsetAt c.second ∈ [r.standard, r.daylight] := by
  have long := near.long
  unfold fiveDays at long
  have same (second : Int) := @h.offsetAt_of_neighbors _ _ _ _ _ yearly hl near late second
  have first := same c.second (Int.le_refl _) (by omega)
  refine ⟨⟨near.long, fun second low high => by rw [same second low high, first]⟩, ?_⟩
  obtain ⟨xs, ys, rest, -⟩ :=
    h.yearlyChanges_of_neighbors yearly hl near late (Int.le_refl _) (by omega)
  have mem : c ∈ z.yearlyChanges c.second := by
    rw [rest]
    simp
  obtain ⟨r', hr', offset⟩ := offset_of_mem_yearlyChanges mem
  cases Option.some.inj (yearly.symm.trans hr')
  rw [first]
  rcases offset with offset | offset <;> simp [offset]

/-- Before the first change of the rule that comes after all listed ones, only later changes are
left of the rule. -/
theorem yearlyChanges_of_last (h : z.Regular) {r : YearlyRule} {last c d : OffsetChange}
    (yearly : z.yearly = some r) (hl : last ∈ z.changes.getLast?) (near : r.Neighbors c d)
    (early : c.second ≤ last.second) (late : last.second < d.second) {second : Int}
    (low : last.second ≤ second) (high : second < d.second) :
    ∃ ys, z.yearlyChanges second = d :: ys ∧ ∀ e ∈ ys, d.second < e.second := by
  obtain ⟨xs, ys, split, before, later⟩ := near.split second (by omega) high
  have none : (xs ++ [c]).filter (fun d => z.changes.all fun e => e.second < d.second) = [] := by
    refine List.filter_eq_nil_iff.mpr fun e he passes => ?_
    have old : e.second ≤ c.second := by
      rcases List.mem_append.mp he with he | he
      · exact Int.le_of_lt (before e he)
      · exact Int.le_of_eq (congrArg OffsetChange.second (List.mem_singleton.mp he))
    have := List.all_eq_true.mp passes last (List.mem_of_getLast? hl)
    simp only [decide_eq_true_eq] at this
    omega
  have rest := h.yearlyChanges_of_split yearly hl (split.trans (List.append_cons xs c (d :: ys)))
    late later
  rw [none, List.nil_append] at rest
  exact ⟨ys, rest, later⟩

/-- The last listed offset is in effect until the first change of the rule after it. -/
theorem lasts_of_last (h : z.Regular) {r : YearlyRule} {last c d : OffsetChange}
    (yearly : z.yearly = some r) (hl : last ∈ z.changes.getLast?) (takes : r.TakesOver z last)
    (near : r.Neighbors c d) (early : c.second ≤ last.second) (late : last.second < d.second) :
    z.Lasts last.second d.second := by
  obtain ⟨xs, eq⟩ := List.getLast?_eq_some_iff.mp hl
  have same : ∀ second, last.second ≤ second → second < d.second →
      z.offsetAt second = last.offset := by
    intro second low high
    obtain ⟨ys, rest, later⟩ := h.yearlyChanges_of_last yearly hl near early late low high
    refine offsetAt_of_split eq low ?_
    rw [rest, List.nil_append]
    simp only [List.mem_cons, forall_eq_or_imp]
    exact ⟨high, fun e he => by have := later e he; omega⟩
  obtain ⟨ys, rest, -⟩ := h.yearlyChanges_of_last yearly hl near early late (Int.le_refl _) late
  have long := takes.2 d (by rw [rest]; exact List.mem_cons_self)
  refine ⟨long, fun second low high => ?_⟩
  rw [same second low high, same last.second (Int.le_refl _) late]

theorem steadyFrom_last (h : z.Regular) {last : OffsetChange} (hl : last ∈ z.changes.getLast?) :
    z.SteadyFrom last.second := by
  obtain ⟨xs, eq⟩ := List.getLast?_eq_some_iff.mp hl
  intro second low
  cases yearly : z.yearly with
  | none =>
    have none (second : Int) : z.yearlyChanges second = [] := by simp [yearlyChanges, yearly]
    have same : ∀ second, last.second ≤ second → z.offsetAt second = last.offset := fun second low =>
      offsetAt_of_split eq low (by simp [none])
    refine ⟨last.second, second + fiveDays, ⟨by omega, fun second low _ => ?_⟩, Int.le_refl _, low,
      by unfold fiveDays; omega, fun lt => absurd lt (Int.lt_irrefl _)⟩
    rw [same second low, same last.second (Int.le_refl _)]
  | some r =>
    obtain ⟨proper, last', hl', takes⟩ := h.tail r yearly
    cases Option.mem_unique hl hl'
    obtain ⟨early, late, alternates⟩ := proper.alternates
    obtain ⟨c, d, near, hc, hd⟩ := alternates.exists_neighbors second
    by_cases old : c.second ≤ last.second
    · exact ⟨last.second, d.second, h.lasts_of_last yearly hl takes near old (by omega),
        Int.le_refl _, low, hd, fun lt => absurd lt (Int.lt_irrefl _)⟩
    · obtain ⟨lasts, offset⟩ := h.lasts_of_neighbors yearly hl near (by omega)
      refine ⟨c.second, d.second, lasts, by omega, hc, hd, fun _ => ?_⟩
      have before : z.offsetAt (c.second - 1) ∈ [last.offset, r.standard, r.daylight] :=
        offsetAt_mem_of_last yearly hl (by omega)
      exact takes.1 _ before _ offset

theorem steadyFrom_change (h : z.Regular) {xs ys : List OffsetChange} {c : OffsetChange}
    (split : z.changes = xs ++ c :: ys) : z.SteadyFrom c.second := by
  -- From the last listed change backwards: each one adds the time until the next.
  induction ys generalizing xs c with
  | nil => exact h.steadyFrom_last (List.getLast?_eq_some_iff.mpr ⟨xs, split⟩)
  | cons d ys ih =>
    have shifted : z.changes = (xs ++ [c]) ++ d :: ys :=
      split.trans (List.append_cons xs c (d :: ys))
    have chain := h.chain
    rw [split] at chain
    have before : c.Before d := (List.isChain_append_cons_cons.mp chain).2.1
    have long := before.1
    unfold fiveDays at long
    have same : ∀ second, c.second ≤ second → second < d.second → z.offsetAt second = c.offset :=
      fun second low high => h.offsetAt_of_next split low high
    have first := same c.second (Int.le_refl _) (by omega)
    refine (ih shifted).extend ⟨before.1, fun second low high => ?_⟩ ?_
    · rw [same second low high, first]
    · unfold jumpAt
      rw [h.offsetAt_change shifted, same (d.second - 1) (by omega) (by omega)]
      exact before.2

theorem steady (h : z.Regular) : z.Steady := by
  intro second
  cases split : z.changes with
  | nil =>
    have same := h.offsetAt_of_nil split
    refine ⟨second, second + fiveDays, ⟨Int.le_refl _, fun s _ _ => by rw [same, same]⟩,
      Int.le_refl _, by unfold fiveDays; omega, ?_⟩
    unfold jumpAt secondsPerDay
    rw [same, same]
    omega
  | cons c ys =>
    have split' : z.changes = [] ++ c :: ys := split
    have before : ∀ s, s < c.second → z.offsetAt s = z.initial := fun s => h.offsetAt_of_first split
    obtain ⟨start, hs, hc⟩ : ∃ start, start ≤ second ∧ start + fiveDays ≤ c.second :=
      ⟨min second (c.second - fiveDays), Int.min_le_left _ _, by omega⟩
    have jump : z.jumpAt c.second ≤ secondsPerDay := by
      unfold jumpAt
      rw [h.offsetAt_change split', before _ (by omega)]
      exact h.first c (by rw [split]; rfl)
    have lasts : z.Lasts start c.second := by
      refine ⟨hc, fun s low high => ?_⟩
      rw [before s high, before start (by unfold fiveDays at hc; omega)]
    have steady := (h.steadyFrom_change split').extend lasts jump
    obtain ⟨first, next, lasts, low, hf, hn, jump⟩ := steady second hs
    refine ⟨first, next, lasts, hf, hn, ?_⟩
    rcases Int.lt_or_eq_of_le low with lt | rfl
    · exact jump lt
    · unfold fiveDays at hc
      unfold jumpAt secondsPerDay
      rw [before start (by omega), before (start - 1) (by omega)]
      omega

end Regular

end ZoneRules

end Almanac
