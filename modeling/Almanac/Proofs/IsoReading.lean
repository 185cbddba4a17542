import Almanac.Proofs.ClockReading
import Almanac.Proofs.Digits
import Almanac.Proofs.ExpressionReading
import Almanac.Proofs.LongYears
import Almanac.Proofs.Trimming

namespace Almanac

theorem exists_cons_padded {width : Nat} (positive : 0 < width) (n : Nat) :
    ∃ c rest, padded width n = c :: rest ∧ c.isDigit = true := by
  obtain ⟨c, rest, eq⟩ := List.exists_cons_of_length_pos
    (Nat.lt_of_lt_of_le positive (le_length_padded width n))
  exact ⟨c, rest, eq, @isDigit_of_mem_padded width n _ (by simp [eq])⟩

theorem decimal_eq_padded {n : Int} (h : 9999 < n) : decimal n = padded 4 n.natAbs := by
  have long : ¬ (Nat.toDigits 10 n.natAbs).length ≤ 4 := by
    rw [Nat.length_toDigits_le_iff (by decide) (by decide)]
    omega
  rw [padded_of_le (by omega), decimal, if_neg (by omega)]

/-- Below the sign, the text of a year is its digits, of which there are at least four. -/
theorem sign?_yearForm (year : Int) (rest : List Char) :
    (sign? (yearForm year ++ rest)).getD (false, yearForm year ++ rest)
      = (decide (year < 0), padded 4 year.natAbs ++ rest) := by
  unfold yearForm
  split
  next wide =>
    simp [decimal_eq_padded wide, sign?, show ¬ year < 0 by omega]
  · split
    next negative => simp [sign?, negative]
    next positive =>
      obtain ⟨c, digits, eq, digit⟩ := exists_cons_padded (show 0 < 4 by decide) year.natAbs
      simp [eq, sign?_of_isDecimalDigit (isDecimalDigit_of_isDigit digit), positive]

theorem wide_padded_iff (n : Nat) : 4 < (padded 4 n).length ↔ 9999 < n := by
  by_cases long : 9999 < n
  · simp [lt_length_padded (show 10 ^ 4 ≤ n by omega), long]
  · simp [length_padded (by decide) (show n < 10 ^ 4 by omega), long]

theorem isDecimalDigit_dash : isDecimalDigit '-' = false := by decide

theorem Date.Valid.fits {d : Date} (h : d.Valid) : Fits 2 d.month ∧ Fits 2 d.day := by
  have last := h.day_le_leap.1
  obtain ⟨first, notLast, start, -⟩ := h
  unfold Fits
  omega

theorem TimeOfDay.Valid.fits {t : TimeOfDay} (h : t.Valid) :
    Fits 2 t.hour ∧ Fits 2 t.minute ∧ Fits 2 t.second ∧ Fits 3 t.millisecond := by
  obtain ⟨hour, minute, second, milli⟩ := h
  unfold Fits
  omega

/-- A date reads back from its text, with the note whether its year is wide. -/
theorem dateHead?_text {d : Date} (h : d.Valid) (rest : List Char) :
    dateHead? (d.text ++ rest) = some (decide (9999 < d.year.natAbs), d, rest) := by
  obtain ⟨month, day⟩ := h.fits
  have digits : ∀ c ∈ padded 4 d.year.natAbs, isDecimalDigit c = true := fun _ mem =>
    isDecimalDigit_of_isDigit (isDigit_of_mem_padded mem)
  have length := le_length_padded 4 d.year.natAbs
  have wide : (decide (4 < (padded 4 d.year.natAbs).length)) = decide (9999 < d.year.natAbs) :=
    decide_eq_decide.mpr (wide_padded_iff d.year.natAbs)
  have year : (if decide (d.year < 0) = true then -(d.year.natAbs : Int) else d.year.natAbs)
      = d.year := by
    simp only [decide_eq_true_eq]
    split <;> omega
  unfold dateHead? Date.text
  simp only [List.append_assoc, List.cons_append, sign?_yearForm,
    takeWhile_digits digits isDecimalDigit_dash, dropWhile_digits digits isDecimalDigit_dash,
    if_neg (Nat.not_lt.mpr length), pair?_padded month.toNat_lt, pair?_padded day.toNat_lt,
    Option.map_some, digitsValue_padded, wide, year, Int.toNat_of_nonneg month.1,
    Int.toNat_of_nonneg day.1]

theorem fractionMillis_padded {n : Nat} (h : n < 1000) : fractionMillis (padded 3 n) = n := by
  have length : (padded 3 n).length = 3 := length_padded (by decide) h
  have whole : (padded 3 n).take 3 = padded 3 n := List.take_of_length_le (by omega)
  simp [fractionMillis, whole, length, digitsValue_padded]

theorem timeHead?_millisText {t : TimeOfDay} (h : t.Valid) {mark : Char}
    (stop : isDecimalDigit mark = false) (rest : List Char) :
    timeHead? (t.millisText ++ mark :: rest) = some (t, mark :: rest) := by
  obtain ⟨hour, minute, second, milli⟩ := h.fits
  have digits : ∀ c ∈ padded 3 t.millisecond.toNat, isDecimalDigit c = true := fun _ mem =>
    isDecimalDigit_of_isDigit (isDigit_of_mem_padded mem)
  have length := milli.length_padded (by decide)
  unfold timeHead? TimeOfDay.millisText TimeOfDay.secondsText
  simp only [List.append_assoc, List.cons_append, pair?_padded hour.toNat_lt,
    pair?_padded minute.toNat_lt, pair?_padded second.toNat_lt, takeWhile_digits digits stop,
    dropWhile_digits digits stop, length, fractionMillis_padded milli.toNat_lt,
    Int.toNat_of_nonneg hour.1, Int.toNat_of_nonneg minute.1, Int.toNat_of_nonneg second.1,
    Int.toNat_of_nonneg milli.1]
  simp

theorem read?_isoForm (i : Instant) :
    Literal.read? i.isoForm =
      some (if 9999 < (i.dateTime 0).date.year.natAbs then .wideYear
        else .instant (i.dateTime 0) ⟨false, 0, 0, 0⟩) := by
  have valid := i.valid_dateTime 0
  have zulu : offsetTail? ['Z'] = some ⟨false, 0, 0, 0⟩ := rfl
  have stop : isDecimalDigit 'Z' = false := by decide
  unfold Literal.read? Literal.dated? Instant.isoForm DateTime.millisText
  simp only [List.append_assoc, List.cons_append, dateHead?_text valid.1,
    timeHead?_millisText valid.2 stop, zulu]
  simp

theorem exists_cons_yearForm (year : Int) :
    ∃ c rest, yearForm year = c :: rest ∧ isBlank c = false := by
  unfold yearForm
  split
  · exact ⟨'+', _, rfl, by decide⟩
  · split
    · exact ⟨'-', _, rfl, by decide⟩
    · obtain ⟨c, rest, eq, digit⟩ := exists_cons_padded (show 0 < 4 by decide) year.natAbs
      exact ⟨c, rest, eq, isBlank_of_isDigit digit⟩

theorem trimSymbols_isoForm (i : Instant) :
    trimSymbols (i.isoForm.map .char) = i.isoForm.map .char := by
  obtain ⟨c, rest, eq, visible⟩ := exists_cons_yearForm (i.dateTime 0).date.year
  have begins : i.isoForm.head? = some c := by
    simp [Instant.isoForm, DateTime.millisText, Date.text, eq]
  have ends : i.isoForm.getLast? = some 'Z' := by
    simp [Instant.isoForm]
  apply @trimBy_of_ends _ _ _ (.char c) (.char 'Z')
  · rw [List.head?_map, begins]
    rfl
  · rw [List.getLast?_map, ends]
    rfl
  · exact visible
  · decide

theorem Literal.toInstant_instant {c : DateTime} (valid : c.Valid) {offset : OffsetFields}
    {seconds : Int} (total : offset.total? = some seconds) (text : Text) (zone : Zone)
    (now : Instant) :
    (Literal.instant c offset).toInstant text zone now = .ok (c.instant seconds) := by
  have checked := DateTime.checked_of_valid valid
  unfold Literal.toInstant
  simp only [checked, total]

/-- The ISO text of an instant is a literal of its date and time in UTC, which is refused if its year
has more than four digits. -/
theorem evaluate_isoForm_eq_ite (i : Instant) (zone : Zone) (now : Instant) :
    evaluate (some (.ofChars i.isoForm)) zone now
      = if -9999 ≤ (i.dateTime 0).date.year ∧ (i.dateTime 0).date.year ≤ 9999 then .ok i
        else .error (.wideYear (.ofChars i.isoForm)) := by
  have nonempty : i.isoForm ≠ [] := by
    simp [Instant.isoForm]
  have total : OffsetFields.total? ⟨false, 0, 0, 0⟩ = some 0 := by decide
  rw [evaluate_ofChars (trimSymbols_isoForm i) nonempty (read?_isoForm i)]
  by_cases wide : 9999 < (i.dateTime 0).date.year.natAbs
  · have outside : ¬ (-9999 ≤ (i.dateTime 0).date.year ∧ (i.dateTime 0).date.year ≤ 9999) := by
      omega
    rw [if_pos wide, if_neg outside]
    rfl
  · have inside : -9999 ≤ (i.dateTime 0).date.year ∧ (i.dateTime 0).date.year ≤ 9999 := by omega
    rw [if_neg wide, if_pos inside]
    rw [Literal.toInstant_instant (i.valid_dateTime 0) total, Instant.instant_dateTime]

/-- What the ISO text of an instant names, if it has one. -/
def Instant.reread (i : Instant) (zone : Zone) (now : Instant) : Except Failure Instant :=
  i.isoText.bind fun text => evaluate (some (.ofChars text)) zone now

/-- The ISO text of an instant names that instant in every zone and at every time, as long as its
year has at most four digits. A wider year is refused as out of range, up to those of so many digits
that the text is not even written. -/
theorem evaluate_isoText (i : Instant) (zone : Zone) (now : Instant) :
    (i.isoText = if TooLong (i.dateTime 0).date.year then .error .longYear else .ok i.isoForm)
      ∧ i.reread zone now
        = (if -9999 ≤ (i.dateTime 0).date.year ∧ (i.dateTime 0).date.year ≤ 9999 then .ok i
          else if TooLong (i.dateTime 0).date.year then .error .longYear
          else .error (.wideYear (.ofChars i.isoForm)))
      ∧ (Failure.wideYear (.ofChars i.isoForm)).category? = some .range
      ∧ Failure.longYear.category? = none := by
  refine ⟨rfl, ?_, rfl, rfl⟩
  unfold Instant.reread Instant.isoText
  by_cases long : TooLong (i.dateTime 0).date.year
  · rw [Instant.written_of_tooLong long, if_neg long.wide, if_pos long]
    rfl
  · rw [Instant.written_of_short long, if_neg long]
    exact evaluate_isoForm_eq_ite i zone now

/-- In a year of 4302 digits no ISO text is written that could be refused as out of range. -/
theorem reread_farAway :
    ¬ (-9999 ≤ (Instant.farAway.dateTime 0).date.year
        ∧ (Instant.farAway.dateTime 0).date.year ≤ 9999)
      ∧ Instant.farAway.reread .utc .epoch = .error .longYear
      ∧ Failure.longYear.category? ≠ some .range := by
  refine ⟨Instant.tooLong_farAway.wide, ?_, nofun⟩
  unfold Instant.reread Instant.isoText
  rw [Instant.written_of_tooLong Instant.tooLong_farAway]
  rfl

end Almanac
