import Almanac.Proofs.Chronology

namespace Almanac

namespace Weekday

theorem number_range (w : Weekday) : 1 ≤ w.number ∧ w.number ≤ 7 := by
  cases w <;> decide

theorem afterMonday_number (w : Weekday) : afterMonday (w.number - 1) = w := by
  cases w <;> rfl

theorem number_injective {v w : Weekday} (same : v.number = w.number) : v = w := by
  rw [← afterMonday_number v, same, afterMonday_number]

end Weekday

theorem yearLength_cases (year : Int) : yearLength year = 365 ∨ yearLength year = 366 := by
  unfold yearLength
  split
  · exact .inr rfl
  · exact .inl rfl

theorem isLeapYear_iff_yearLength {year : Int} :
    isLeapYear year = true ↔ yearLength year = 366 := by
  unfold yearLength
  split
  next leap => simp [leap]
  next short => simp [short]

namespace Date

variable {d e : Date} {year week : Int}

theorem number_weekday (d : Date) : d.weekday.number = (d.epochDay + 3) % 7 + 1 :=
  Weekday.number_afterMonday _

theorem weekday_eq_iff {w : Weekday} : d.weekday = w ↔ (d.epochDay + 3) % 7 + 1 = w.number := by
  rw [← number_weekday]
  exact ⟨congrArg Weekday.number, Weekday.number_injective⟩

/-- The Monday of the week of a date. -/
def weekStart (d : Date) : Date :=
  d.plusDays (1 - d.weekday.number)

theorem weekStart_spec (d : Date) :
    d.weekStart.weekday = .monday ∧ d.weekStart.epochDay ≤ d.epochDay
      ∧ d.epochDay ≤ d.weekStart.epochDay + 6 := by
  have start : d.weekStart.epochDay = d.epochDay + (1 - d.weekday.number) := d.epochDay_plusDays _
  have number := d.number_weekday
  rw [weekday_eq_iff, Weekday.number]
  omega

/-- The Monday from which the weeks of a year are counted. The first week holds 4 January. -/
def firstMonday (year : Int) : Date :=
  weekStart ⟨year, 1, 4⟩

theorem firstMonday_near (year : Int) :
    (firstMonday year).epochDay % 7 = 4
      ∧ epochDay ⟨year, 1, 1⟩ - 3 ≤ (firstMonday year).epochDay
      ∧ (firstMonday year).epochDay ≤ epochDay ⟨year, 1, 1⟩ + 3 := by
  obtain ⟨monday, first, last⟩ := weekStart_spec ⟨year, 1, 4⟩
  have fourth : epochDay ⟨year, 1, 4⟩ = epochDay ⟨year, 1, 1⟩ + (4 - 1) := epochDay_eq_first _
  rw [weekday_eq_iff, Weekday.number] at monday
  unfold firstMonday
  omega

/-- A year has a week more if it begins on a Thursday, or as a leap year on a Wednesday. -/
def LongInWeeks (year : Int) : Prop :=
  weekday ⟨year, 1, 1⟩ = .thursday ∨ isLeapYear year = true ∧ weekday ⟨year, 1, 1⟩ = .wednesday

instance (year : Int) : Decidable (LongInWeeks year) :=
  inferInstanceAs (Decidable (_ ∨ _ ∧ _))

def weeksIn (year : Int) : Int :=
  if LongInWeeks year then 53 else 52

/-- Day 0 was a Thursday. -/
theorem longInWeeks_iff :
    LongInWeeks year ↔ epochDay ⟨year, 1, 1⟩ % 7 = 0
      ∨ yearLength year = 366 ∧ epochDay ⟨year, 1, 1⟩ % 7 = 6 := by
  unfold LongInWeeks
  rw [weekday_eq_iff, weekday_eq_iff, Weekday.number, Weekday.number]
  refine or_congr ?_ (and_congr isLeapYear_iff_yearLength ?_)
  · omega
  · omega

/-- The weeks of a year last until those of the next one begin. -/
theorem firstMonday_succ (year : Int) :
    (firstMonday (year + 1)).epochDay = (firstMonday year).epochDay + 7 * weeksIn year := by
  have here := firstMonday_near year
  have there := firstMonday_near (year + 1)
  have long := @longInWeeks_iff year
  have days := yearLength_cases year
  rw [epochDay_newYear_succ] at there
  unfold weeksIn
  split
  next more =>
    have := long.mp more
    omega
  next fewer =>
    have := mt long.mpr fewer
    omega

theorem firstMonday_mono {y z : Int} (le : y ≤ z) :
    (firstMonday y).epochDay ≤ (firstMonday z).epochDay := by
  have here := firstMonday_near y
  have there := firstMonday_near z
  have days := epochDay_newYear_mono le
  omega

theorem year_ofEpochDay_eq_iff {n : Int} :
    (ofEpochDay n).year = year ↔ epochDay ⟨year, 1, 1⟩ ≤ n ∧ n < epochDay ⟨year + 1, 1, 1⟩ := by
  have started := (valid_ofEpochDay n).epochDay_lt_newYear_iff year
  have ended := (valid_ofEpochDay n).epochDay_lt_newYear_iff (year + 1)
  rw [epochDay_ofEpochDay] at started ended
  omega

/-- A date is in a week of a year exactly if the year has that week and the date is one of the seven
days that belong to it by the count from the first Monday. -/
theorem isoWeek_eq_iff :
    d.isoWeek = (year, week)
      ↔ (1 ≤ week ∧ week ≤ weeksIn year)
        ∧ (firstMonday year).epochDay + 7 * (week - 1) ≤ d.epochDay
        ∧ d.epochDay < (firstMonday year).epochDay + 7 * week := by
  obtain ⟨thursday, known⟩ : ∃ n, d.epochDay + 4 - d.weekday.number = n := ⟨_, rfl⟩
  have number := d.number_weekday
  have here := firstMonday_near year
  have there := firstMonday_near (year + 1)
  have next := firstMonday_succ year
  have counted : d.isoWeek = (year, week) ↔ (ofEpochDay thursday).year = year
      ∧ (thursday - epochDay ⟨year, 1, 1⟩) / 7 + 1 = week := by
    unfold isoWeek
    dsimp only
    rw [known, Prod.mk.injEq]
    exact and_congr_right fun same => by rw [same]
  rw [counted, year_ofEpochDay_eq_iff]
  -- A week begins three days before its Thursday, and the Thursdays are the days divisible by 7.
  omega

theorem isoWeek_spec (d : Date) :
    (1 ≤ d.isoWeek.2 ∧ d.isoWeek.2 ≤ weeksIn d.isoWeek.1)
      ∧ (firstMonday d.isoWeek.1).epochDay + 7 * (d.isoWeek.2 - 1) ≤ d.epochDay
      ∧ d.epochDay < (firstMonday d.isoWeek.1).epochDay + 7 * d.isoWeek.2 :=
  isoWeek_eq_iff.mp Prod.mk.eta.symm

/-- A date is as many days after the first Monday as its week and its weekday say. -/
theorem epochDay_eq_week (d : Date) :
    d.epochDay
      = (firstMonday d.isoWeek.1).epochDay + 7 * (d.isoWeek.2 - 1) + (d.weekday.number - 1) := by
  obtain ⟨-, first, last⟩ := d.isoWeek_spec
  have number := d.number_weekday
  have monday := (firstMonday_near d.isoWeek.1).1
  omega

theorem exists_isoWeek_iff :
    (∃ d : Date, d.Valid ∧ d.isoWeek = (year, week)) ↔ 1 ≤ week ∧ week ≤ weeksIn year := by
  constructor
  · rintro ⟨d, -, same⟩
    exact (isoWeek_eq_iff.mp same).1
  · intro range
    refine ⟨ofEpochDay ((firstMonday year).epochDay + 7 * (week - 1)), valid_ofEpochDay _,
      isoWeek_eq_iff.mpr ⟨range, ?_⟩⟩
    rw [epochDay_ofEpochDay]
    omega

/-- The year, the week and the weekday by which a date is named. -/
def weekFields (d : Date) : List Int :=
  [d.isoWeek.1, d.isoWeek.2, d.weekday.number]

theorem epochDay_lt_of_weekYear (less : d.isoWeek.1 < e.isoWeek.1) : d.epochDay < e.epochDay := by
  obtain ⟨range, -, last⟩ := d.isoWeek_spec
  obtain ⟨range', first', -⟩ := e.isoWeek_spec
  -- The last week of the earlier year ends where the weeks of the year after it begin.
  have next := firstMonday_succ d.isoWeek.1
  have later := firstMonday_mono (show d.isoWeek.1 + 1 ≤ e.isoWeek.1 from less)
  omega

theorem Valid.compare_weekFields (hd : d.Valid) (he : e.Valid) :
    compare d.weekFields e.weekFields = compare d e := by
  have day := d.epochDay_eq_week
  have day' := e.epochDay_eq_week
  have range := d.weekday.number_range
  have range' := e.weekday.number_range
  rw [← hd.compare_epochDay he]
  simp only [weekFields, List.compare_cons_cons, List.compare_nil_nil, Ordering.then_eq]
  symm
  refine compare_eq_then epochDay_lt_of_weekYear epochDay_lt_of_weekYear fun year => ?_
  rw [year] at day
  refine compare_eq_then (fun _ => by omega) (fun _ => by omega) fun week => ?_
  exact compare_eq_of_sub (by omega)

theorem Valid.weekFields_eq_iff (hd : d.Valid) (he : e.Valid) :
    d.weekFields = e.weekFields ↔ d = e := by
  constructor
  · intro same
    obtain ⟨year, week, number⟩ : d.isoWeek.1 = e.isoWeek.1 ∧ d.isoWeek.2 = e.isoWeek.2
        ∧ d.weekday.number = e.weekday.number := by
      simpa [weekFields] using same
    rw [← ofEpochDay_epochDay hd, ← ofEpochDay_epochDay he, d.epochDay_eq_week, e.epochDay_eq_week,
      year, week, number]
  · intro same
    rw [same]

/-- The weeks of a year are counted from the Monday of the week of 4 January. There are 52 of them,
and one more in the years that are long in weeks. The year, the week and the weekday name a date,
and their order is that of the dates. -/
theorem Valid.isoWeek_names_date (hd : d.Valid) (he : e.Valid) (year : Int) :
    ((firstMonday year).weekday = .monday
        ∧ (firstMonday year).epochDay ≤ epochDay ⟨year, 1, 4⟩
        ∧ epochDay ⟨year, 1, 4⟩ ≤ (firstMonday year).epochDay + 6)
      ∧ d.epochDay
        = (firstMonday d.isoWeek.1).epochDay + 7 * (d.isoWeek.2 - 1) + (d.weekday.number - 1)
      ∧ 1 ≤ d.isoWeek.2
      ∧ (d.isoWeek.2 ≤ 52 ∨ d.isoWeek.2 = 53 ∧ LongInWeeks d.isoWeek.1)
      ∧ ((∃ f : Date, f.Valid ∧ f.isoWeek = (year, 53)) ↔ LongInWeeks year)
      ∧ (d.weekFields = e.weekFields ↔ d = e)
      ∧ compare d.weekFields e.weekFields = compare d e := by
  obtain ⟨⟨first, last⟩, -⟩ := d.isoWeek_spec
  refine ⟨weekStart_spec ⟨year, 1, 4⟩, d.epochDay_eq_week, first, ?_, ?_,
    hd.weekFields_eq_iff he, hd.compare_weekFields he⟩
  · unfold weeksIn at last
    split at last
    next long => exact (Int.lt_or_eq_of_le last).imp Int.le_of_lt_add_one fun week => ⟨week, long⟩
    next => exact .inl last
  · rw [exists_isoWeek_iff]
    unfold weeksIn
    split
    next long => simp [long]
    next short => simp [short]

theorem isoWeek_names_date_over_new_year :
    Valid ⟨2021, 1, 3⟩
      ∧ Valid ⟨2021, 1, 4⟩
      ∧ epochDay ⟨2021, 1, 3⟩ = epochDay ⟨2019, 12, 30⟩ + 7 * (53 - 1) + (7 - 1)
      ∧ ((53 : Int) ≤ 52 ∨ (53 : Int) = 53 ∧ LongInWeeks 2020)
      ∧ ((∃ f : Date, f.Valid ∧ f.isoWeek = (2021, 53)) ↔ LongInWeeks 2021)
      ∧ ([2020, 53, 7] = [(2021 : Int), 1, 1] ↔ (⟨2021, 1, 3⟩ : Date) = ⟨2021, 1, 4⟩)
      ∧ compare [2020, 53, 7] [(2021 : Int), 1, 1]
        = compare (⟨2021, 1, 3⟩ : Date) ⟨2021, 1, 4⟩ := by
  have sunday : Valid ⟨2021, 1, 3⟩ := by decide
  have monday : Valid ⟨2021, 1, 4⟩ := by decide
  have fields : weekFields ⟨2021, 1, 3⟩ = [2020, 53, 7] := by decide
  have fields' : weekFields ⟨2021, 1, 4⟩ = [2021, 1, 1] := by decide
  have start : firstMonday 2020 = ⟨2019, 12, 30⟩ := by decide
  obtain ⟨-, day, -, week, long, named, ordered⟩ := sunday.isoWeek_names_date monday 2021
  rw [fields, fields'] at named ordered
  change _ = (firstMonday 2020).epochDay + 7 * (53 - 1) + (7 - 1) at day
  rw [start] at day
  exact ⟨sunday, monday, day, week, long, named, ordered⟩

end Date

end Almanac
