import Almanac.Proofs.CountedDays
import Mathlib.Data.Set.Function

namespace Almanac

/-- A count that grows with a leading number is ordered by that number first. -/
theorem compare_eq_then {p q m n : Int} {rest : Ordering} (before : p < q → m < n)
    (after : q < p → n < m) (same : p = q → compare m n = rest) :
    compare m n = (compare p q).then rest := by
  rcases Int.lt_trichotomy p q with less | equal | more
  · rw [Int.compare_eq_lt.mpr less, Int.compare_eq_lt.mpr (before less), Ordering.lt_then]
  · rw [Int.compare_eq_eq.mpr equal, same equal, Ordering.eq_then]
  · rw [Int.compare_eq_gt.mpr more, Int.compare_eq_gt.mpr (after more), Ordering.gt_then]

theorem compare_eq_of_sub {p q m n : Int} (apart : m - n = p - q) : compare m n = compare p q := by
  rw [← Ordering.then_eq (o := compare p q)]
  refine compare_eq_then (fun _ => by omega) (fun _ => by omega) fun equal => ?_
  exact Int.compare_eq_eq.mpr (by omega)

namespace Date

/-- Every number of days is that of exactly one valid date, and every valid date has one. -/
theorem ofEpochDay_bijective :
    (∀ n, (ofEpochDay n).Valid ∧ (ofEpochDay n).epochDay = n)
      ∧ (∀ d, d.Valid ↔ ofEpochDay d.epochDay = d)
      ∧ Set.BijOn ofEpochDay Set.univ {d | d.Valid}
      ∧ Set.BijOn epochDay {d | d.Valid} Set.univ := by
  have back : Set.InvOn epochDay ofEpochDay Set.univ {d | d.Valid} :=
    ⟨fun n _ => epochDay_ofEpochDay n, fun _ valid => ofEpochDay_epochDay valid⟩
  have dates : Set.MapsTo ofEpochDay Set.univ {d | d.Valid} := fun n _ => valid_ofEpochDay n
  have days : Set.MapsTo epochDay {d | d.Valid} Set.univ := fun _ _ => Set.mem_univ _
  refine ⟨fun n => ⟨valid_ofEpochDay n, epochDay_ofEpochDay n⟩, fun d => ?_,
    back.bijOn dates days, back.symm.bijOn days dates⟩
  constructor
  · exact ofEpochDay_epochDay
  · intro same
    rw [← same]
    exact valid_ofEpochDay _

variable {a b : Date}

theorem Valid.epochDay_lt_of_year (ha : a.Valid) (hb : b.Valid) (less : a.year < b.year) :
    a.epochDay < b.epochDay := by
  have ended := (ha.epochDay_lt_newYear_iff b.year).mpr less
  have started := mt (hb.epochDay_lt_newYear_iff b.year).mp (Int.lt_irrefl _)
  omega

theorem Valid.epochDay_lt_of_month (ha : a.Valid) (hb : b.Valid) (same : a.year = b.year)
    (less : a.month < b.month) : a.epochDay < b.epochDay := by
  obtain ⟨first, notLast, -, last⟩ := ha
  obtain ⟨-, inYear, start, -⟩ := hb
  have next := epochDay_first_succ a.year first (by omega)
  have later := epochDay_first_eq_add a.year (show 1 ≤ a.month + 1 by omega) less inYear
  have days : 0 ≤ daysFrom (monthLength a.year) (a.month + 1) (b.month - (a.month + 1)).toNat :=
    daysFrom_nonneg (fun m => Int.le_trans (by decide) (monthLength_range a.year m).1) _ _
  have day := a.epochDay_eq_first
  have day' := b.epochDay_eq_first
  unfold firstOfMonth at day day'
  rw [← same] at day'
  omega

theorem compare_eq (a b : Date) :
    compare a b
      = (compare a.year b.year).then ((compare a.month b.month).then (compare a.day b.day)) := by
  rw [← Ordering.then_eq (o := compare a.day b.day)]
  rfl

/-- Dates are ordered as their days are. -/
theorem Valid.compare_epochDay (ha : a.Valid) (hb : b.Valid) :
    compare a.epochDay b.epochDay = compare a b := by
  rw [compare_eq]
  refine compare_eq_then (ha.epochDay_lt_of_year hb) (hb.epochDay_lt_of_year ha) fun year => ?_
  refine compare_eq_then (ha.epochDay_lt_of_month hb year)
    (hb.epochDay_lt_of_month ha year.symm) fun month => ?_
  have first : a.firstOfMonth = b.firstOfMonth := by
    unfold firstOfMonth
    rw [year, month]
  have day := a.epochDay_eq_first
  have day' := b.epochDay_eq_first
  rw [first] at day
  exact compare_eq_of_sub (by omega)

end Date

namespace TimeOfDay

theorem compare_eq (t u : TimeOfDay) :
    compare t u
      = (compare t.hour u.hour).then ((compare t.minute u.minute).then
        ((compare t.second u.second).then (compare t.millisecond u.millisecond))) := by
  rw [← Ordering.then_eq (o := compare t.millisecond u.millisecond)]
  rfl

/-- Times of day are ordered as their milliseconds are. -/
theorem Valid.compare_millis {t u : TimeOfDay} (ht : t.Valid) (hu : u.Valid) :
    compare t.millis u.millis = compare t u := by
  obtain ⟨-, minute, second, milli⟩ := ht
  obtain ⟨-, minute', second', milli'⟩ := hu
  rw [compare_eq]
  unfold millis
  refine compare_eq_then (fun _ => by omega) (fun _ => by omega) fun hour => ?_
  refine compare_eq_then (fun _ => by omega) (fun _ => by omega) fun minute => ?_
  refine compare_eq_then (fun _ => by omega) (fun _ => by omega) fun second => ?_
  exact compare_eq_of_sub (by omega)

end TimeOfDay

namespace DateTime

variable {c d : DateTime}

theorem compare_eq (c d : DateTime) :
    compare c d = (compare c.date d.date).then (compare c.time d.time) := by
  rw [← Ordering.then_eq (o := compare c.time d.time)]
  rfl

/-- Clocks at the same offset are ordered as the moments at which they show what they do. -/
theorem Valid.compare_epochMillis (hc : c.Valid) (hd : d.Valid) (offset : Int) :
    compare (c.epochMillis offset) (d.epochMillis offset) = compare c d := by
  have time := hc.2.millis_range
  have time' := hd.2.millis_range
  rw [compare_eq, ← hc.1.compare_epochDay hd.1, ← hc.2.compare_millis hd.2]
  unfold epochMillis millisPerDay at *
  refine compare_eq_then (fun _ => by omega) (fun _ => by omega) fun day => ?_
  exact compare_eq_of_sub (by omega)

/-- The fields of a date and time, from the year down. -/
def fields (c : DateTime) : List Int :=
  [c.date.year, c.date.month, c.date.day, c.time.hour, c.time.minute, c.time.second,
    c.time.millisecond]

theorem compare_fields (c d : DateTime) : compare c.fields d.fields = compare c d := by
  rw [compare_eq, Date.compare_eq, TimeOfDay.compare_eq]
  simp only [fields, List.compare_cons_cons, List.compare_nil_nil, Ordering.then_eq,
    Ordering.then_assoc]

/-- On a clock at any offset every number of milliseconds is a date and time, which gives the number
back, and every valid date and time is that of its number. The order of the numbers is that of the
fields from the year down. -/
theorem Valid.epochMillis_chronological (hc : c.Valid) (hd : d.Valid) (millis offset : Int) :
    (ofEpochMillis millis offset).checked = .ok (ofEpochMillis millis offset)
      ∧ (ofEpochMillis millis offset).epochMillis offset = millis
      ∧ ofEpochMillis (c.epochMillis offset) offset = c
      ∧ compare c.fields d.fields = compare (c.epochMillis offset) (d.epochMillis offset)
      ∧ (c < d ↔ c.epochMillis offset < d.epochMillis offset)
      ∧ (c = d ↔ c.epochMillis offset = d.epochMillis offset) := by
  have order := hc.compare_epochMillis hd offset
  refine ⟨checked_of_valid (valid_ofEpochMillis millis offset),
    epochMillis_ofEpochMillis millis offset, ofEpochMillis_epochMillis hc offset, ?_, ?_, ?_⟩
  · rw [compare_fields, order]
  · change compare c d = .lt ↔ _
    rw [← order, Int.compare_eq_lt]
  · constructor
    · intro same
      rw [same]
    · intro same
      have back := ofEpochMillis_epochMillis hc offset
      rw [same, ofEpochMillis_epochMillis hd offset] at back
      exact back.symm

theorem epochMillis_chronological_over_new_year :
    Valid ⟨⟨-1, 12, 31⟩, ⟨23, 59, 59, 999⟩⟩
      ∧ Valid ⟨⟨0, 1, 1⟩, .midnight⟩
      ∧ checked (ofEpochMillis (-1) 3600) = .ok ⟨⟨1970, 1, 1⟩, ⟨0, 59, 59, 999⟩⟩
      ∧ epochMillis ⟨⟨1970, 1, 1⟩, ⟨0, 59, 59, 999⟩⟩ 3600 = -1
      ∧ (⟨⟨-1, 12, 31⟩, ⟨23, 59, 59, 999⟩⟩ : DateTime) < ⟨⟨0, 1, 1⟩, .midnight⟩
      ∧ epochMillis ⟨⟨-1, 12, 31⟩, ⟨23, 59, 59, 999⟩⟩ 3600
        < epochMillis ⟨⟨0, 1, 1⟩, .midnight⟩ 3600 := by
  have before : Valid ⟨⟨-1, 12, 31⟩, ⟨23, 59, 59, 999⟩⟩ := by decide
  have after : Valid ⟨⟨0, 1, 1⟩, .midnight⟩ := by decide
  have shown : ofEpochMillis (-1) 3600 = ⟨⟨1970, 1, 1⟩, ⟨0, 59, 59, 999⟩⟩ := by decide
  obtain ⟨made, back, -, -, order, -⟩ := before.epochMillis_chronological after (-1) 3600
  rw [shown] at made back
  have less : epochMillis ⟨⟨-1, 12, 31⟩, ⟨23, 59, 59, 999⟩⟩ 3600
      < epochMillis ⟨⟨0, 1, 1⟩, .midnight⟩ 3600 := by decide
  rw [shown]
  exact ⟨before, after, made, back, order.mpr less, less⟩

end DateTime

end Almanac
