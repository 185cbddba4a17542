import Almanac.Proofs.YearlyChanges

namespace Almanac

namespace YearlyRule

/-- The changes of a rule in the years around an epoch second. -/
def around (r : YearlyRule) (second : Int) : List OffsetChange :=
  let year := yearOfSecond second
  r.changes (year - 1) ++ r.changes year ++ r.changes (year + 1)

/-- One change of a rule and the next: between them the first is the last one made, in whichever
years the changes are looked for. -/
structure Neighbors (r : YearlyRule) (c d : OffsetChange) : Prop where
  long : c.second + fiveDays ≤ d.second
  split : ∀ second, c.second ≤ second → second < d.second →
    ∃ xs ys, r.around second = xs ++ c :: d :: ys
      ∧ (∀ x ∈ xs, x.second < c.second) ∧ ∀ y ∈ ys, d.second < y.second

namespace Alternates

variable {r : YearlyRule} {early late : Int → OffsetChange}

theorem late_early (h : r.Alternates early late) (year : Int) :
    (late year).second + fiveDays ≤ (early (year + 1)).second :=
  Int.le_trans (h.late_newYear year) (h.newYear_le (year + 1))

theorem around_eq (h : r.Alternates early late) {second year : Int}
    (eq : yearOfSecond second = year) :
    r.around second = [early (year - 1), late (year - 1), early year, late year, early (year + 1),
      late (year + 1)] := by
  simp [around, eq, h.changes_eq]

theorem neighbors_in_year (h : r.Alternates early late) (year : Int) :
    r.Neighbors (early year) (late year) := by
  have newYear := h.newYear_le year
  have last := h.late_newYear year
  have before := h.late_early (year - 1)
  have sooner := h.early_late (year - 1)
  have after := h.late_early year
  have later := h.early_late (year + 1)
  rw [Int.sub_add_cancel] at before
  unfold fiveDays at last before sooner after later
  refine ⟨h.early_late year, fun second low high => ?_⟩
  have eq := @yearOfSecond_eq second year (by omega) (by omega)
  refine ⟨[early (year - 1), late (year - 1)], [early (year + 1), late (year + 1)], ?_, ?_, ?_⟩
  · exact h.around_eq eq
  · simp only [List.mem_cons, List.not_mem_nil, or_false, forall_eq_or_imp, forall_eq]
    omega
  · simp only [List.mem_cons, List.not_mem_nil, or_false, forall_eq_or_imp, forall_eq]
    omega

theorem neighbors_over_newYear (h : r.Alternates early late) (year : Int) :
    r.Neighbors (late year) (early (year + 1)) := by
  have newYear := h.newYear_le year
  have first := h.early_late year
  have last := h.late_newYear (year + 1)
  have before := h.late_early (year - 1)
  have sooner := h.early_late (year - 1)
  have nextEarly := h.early_late (year + 1)
  have after := h.late_early (year + 1)
  have later := h.early_late (year + 1 + 1)
  rw [Int.sub_add_cancel] at before
  unfold fiveDays at first last before sooner nextEarly after later
  refine ⟨h.late_early year, fun second low high => ?_⟩
  by_cases old : second < newYearSecond (year + 1)
  · have eq := @yearOfSecond_eq second year (by omega) old
    refine ⟨[early (year - 1), late (year - 1), early year], [late (year + 1)], ?_, ?_, ?_⟩
    · exact h.around_eq eq
    · simp only [List.mem_cons, List.not_mem_nil, or_false, forall_eq_or_imp, forall_eq]
      omega
    · simp only [List.mem_cons, List.not_mem_nil, or_false, forall_eq]
      omega
  · have eq := @yearOfSecond_eq second (year + 1) (by omega) (by omega)
    refine ⟨[early year], [late (year + 1), early (year + 1 + 1), late (year + 1 + 1)], ?_, ?_, ?_⟩
    · rw [h.around_eq eq, Int.add_sub_cancel]
      rfl
    · simp only [List.mem_cons, List.not_mem_nil, or_false, forall_eq]
      omega
    · simp only [List.mem_cons, List.not_mem_nil, or_false, forall_eq_or_imp, forall_eq]
      omega

/-- Every second lies between two changes of a rule. -/
theorem exists_neighbors (h : r.Alternates early late) (second : Int) :
    ∃ c d, r.Neighbors c d ∧ c.second ≤ second ∧ second < d.second := by
  obtain ⟨year, hy⟩ : ∃ year, yearOfSecond second = year := ⟨_, rfl⟩
  have low := mt (lt_newYearSecond_iff second year).mp (by omega)
  have high := (lt_newYearSecond_iff second (year + 1)).mpr (by omega)
  have last := h.late_newYear (year - 1)
  have first := h.newYear_le (year + 1)
  rw [Int.sub_add_cancel] at last
  unfold fiveDays at last
  -- Three stretches of the year, of which the outer two reach into the years next to it.
  by_cases a : second < (early year).second
  · have across := h.neighbors_over_newYear (year - 1)
    rw [Int.sub_add_cancel] at across
    exact ⟨_, _, across, by omega, a⟩
  · by_cases b : second < (late year).second
    · exact ⟨_, _, h.neighbors_in_year year, by omega, b⟩
    · exact ⟨_, _, h.neighbors_over_newYear year, by omega, by omega⟩

end Alternates

end YearlyRule

end Almanac
