import Almanac.Proofs.IsoReading
import Almanac.Proofs.LocalLiterals

namespace Almanac

/-- A number of one or two digits in a field of two. -/
def Digits.two (n : Nat) (h : n < 100) : Digits 2 :=
  ⟨padded 2 n, length_padded (by decide) h, fun _ mem =>
    isDecimalDigit_of_isDigit (isDigit_of_mem_padded mem)⟩

theorem Digits.value_two {n : Nat} (h : n < 100) : (two n h).value = n :=
  digitsValue_padded 2 n

/-- A year in its own text. -/
def WrittenYear.ofYear (year : Int) : WrittenYear where
  sign? := if 9999 < year then some false else if year < 0 then some true else none
  width := (padded 4 year.natAbs).length
  digits := ⟨padded 4 year.natAbs, rfl, fun _ mem =>
    isDecimalDigit_of_isDigit (isDigit_of_mem_padded mem)⟩
  fourOrMore := le_length_padded 4 year.natAbs

namespace WrittenYear

theorem chars_ofYear (year : Int) : (ofYear year).chars = yearForm year := by
  unfold chars ofYear yearForm
  dsimp only
  by_cases wide : 9999 < year
  · rw [if_pos wide, if_pos wide, decimal_eq_padded wide]
    rfl
  · rw [if_neg wide, if_neg wide]
    by_cases negative : year < 0
    · rw [if_pos negative, if_pos negative]
      rfl
    · rw [if_neg negative, if_neg negative]
      rfl

theorem value_ofYear (year : Int) : (ofYear year).value = year := by
  have digits : (ofYear year).digits.value = year.natAbs := digitsValue_padded 4 year.natAbs
  have minus : ((ofYear year).sign? = some true) ↔ year < 0 := by
    unfold ofYear
    dsimp only
    split
    · simp
      omega
    · simp
  unfold value
  rw [digits]
  by_cases negative : year < 0
  · rw [if_pos (minus.mpr negative)]
    omega
  · rw [if_neg (mt minus.mp negative)]
    omega

theorem wide_ofYear (year : Int) : (ofYear year).Wide ↔ 9999 < year.natAbs :=
  wide_padded_iff year.natAbs

end WrittenYear

/-- A date of the calendar in its own text. -/
def WrittenDate.ofDate (d : Date) (h : d.Valid) : WrittenDate where
  year := .ofYear d.year
  month := .two d.month.toNat (by have := h.2.1; omega)
  day := .two d.day.toNat (by have := h.day_le_leap.1; omega)

namespace WrittenDate

variable {d : Date} (h : d.Valid)

theorem chars_ofDate : (ofDate d h).chars = d.text := by
  unfold chars Date.text
  rw [← WrittenYear.chars_ofYear, List.append_assoc]
  rfl

theorem value_ofDate : (ofDate d h).value = d := by
  have year : (ofDate d h).year.value = d.year := WrittenYear.value_ofYear d.year
  have month : (ofDate d h).month.value = d.month.toNat := digitsValue_padded 2 _
  have day : (ofDate d h).day.value = d.day.toNat := digitsValue_padded 2 _
  have low := h.1
  have first := h.2.2.1
  unfold value
  rw [year, month, day, Int.toNat_of_nonneg (by omega), Int.toNat_of_nonneg (by omega)]

end WrittenDate

/-- The first of January of a year, and the first of a month, as dates are written. -/
def PlainYear.firstDate (y : PlainYear) (month? : Option MarkedMonth) : WrittenDate where
  year := ⟨none, y.digits.length, ⟨y.digits, rfl, fun c mem =>
    isDecimalDigit_of_isDigit (y.isDigit c mem)⟩, y.fourOrMore⟩
  month := match month? with
    | none => .two 1 (by decide)
    | some m => ⟨m.digits, m.length_digits, fun c mem => isDecimalDigit_of_isDigit (m.isDigit c mem)⟩
  day := .two 1 (by decide)

theorem PlainYear.value_firstDate (y : PlainYear) (month? : Option MarkedMonth) :
    (y.firstDate month?).value = y.firstDay month? := by
  cases month? with
  | none => rfl
  | some m => rfl

/-- A date and the midnight that begins it. -/
def WrittenDate.atMidnight (d : WrittenDate) : WrittenDateTime :=
  ⟨d, true, .minutes (.two 0 (by decide)) (.two 0 (by decide))⟩

theorem WrittenDate.chars_atMidnight (d : WrittenDate) :
    d.atMidnight.chars = d.chars ++ "T00:00".toList :=
  rfl

theorem WrittenDate.value_atMidnight (d : WrittenDate) :
    d.atMidnight.value = ⟨d.value, .midnight⟩ :=
  rfl

/-- A time after the text of a date is one of that date, which is refused if its year is wide. -/
theorem evaluateKind_dated {d : Date} (h : d.Valid) (t : WrittenTime) (zone : Zone) (now : Instant) :
    evaluateKind (.ofChars (d.text ++ 'T' :: t.chars)) zone now
      = if -9999 ≤ d.year ∧ d.year ≤ 9999 then (⟨d, t.value⟩ : DateTime).localAnswer zone
        else .error (some .range) := by
  obtain ⟨w, hw⟩ : ∃ w : WrittenDateTime, w = ⟨.ofDate d h, true, t⟩ := ⟨_, rfl⟩
  have chars : w.chars = d.text ++ 'T' :: t.chars := by
    rw [hw, WrittenDateTime.chars, WrittenDate.chars_ofDate]
    rfl
  have value : w.value = ⟨d, t.value⟩ := by
    rw [hw, WrittenDateTime.value, WrittenDate.value_ofDate]
  have wide : w.date.year.Wide ↔ ¬ (-9999 ≤ d.year ∧ d.year ≤ 9999) := by
    rw [hw]
    refine (WrittenYear.wide_ofYear d.year).trans ?_
    omega
  rw [← chars, w.evaluateKind_chars, value, DateTime.datedAnswer]
  by_cases within : -9999 ≤ d.year ∧ d.year ≤ 9999
  · rw [if_neg fun h => wide.mp h within, if_pos within]
  · rw [if_pos (wide.mpr within), if_neg within]

/-- All spellings of a date and time on the clocks of a zone agree, as instants and as kinds of
failures, whether the fields are in range or not. A year means its first day, and a month of a year,
after any mark, its first day; a date means the midnight that begins it, and a time that of the date
of the present, if that date can be written with four digits for its year. -/
theorem local_spellings_agree (zone : Zone) (now : Instant) :
    (∀ y : PlainYear, evaluateKind (.ofChars y.digits) zone now
        = evaluateKind (.ofChars (y.digits ++ "-01-01".toList)) zone now)
      ∧ (∀ (y : PlainYear) (m : MarkedMonth) (text : Text),
        text.symbols = y.digits.map .char ++ m.symbols →
        evaluateKind text zone now
          = evaluateKind (.ofChars (y.digits ++ '-' :: (m.digits ++ "-01".toList))) zone now)
      ∧ (∀ d : WrittenDate, evaluateKind (.ofChars d.chars) zone now
          = (⟨d.value, .midnight⟩ : DateTime).datedAnswer d.year.Wide zone
        ∧ evaluateKind (.ofChars d.chars) zone now
          = evaluateKind (.ofChars (d.chars ++ "T00:00".toList)) zone now)
      ∧ ∀ t : WrittenTime, let today := (zone.dateTime now).date
        evaluateKind (.ofChars (today.text ++ 'T' :: t.chars)) zone now
          = if -9999 ≤ today.year ∧ today.year ≤ 9999 then evaluateKind (.ofChars t.chars) zone now
            else .error (some .range) := by
  refine ⟨fun y => ?_, fun y m text spelled => ?_, fun d => ⟨?_, ?_⟩, fun t => ?_⟩
  · have first := (y.firstDate none).evaluateKind_chars zone now
    rw [y.value_firstDate] at first
    refine Eq.trans ?_ first.symm
    refine y.evaluateKind_symbols ?_ zone now
    rw [Text.symbols_ofChars, PlainYear.symbols, Option.elim_none, List.append_nil]
  · have first := (y.firstDate (some m)).evaluateKind_chars zone now
    rw [y.value_firstDate] at first
    exact (y.evaluateKind_symbols spelled zone now).trans first.symm
  · exact d.evaluateKind_chars zone now
  · rw [← d.chars_atMidnight, d.evaluateKind_chars, d.atMidnight.evaluateKind_chars,
      d.value_atMidnight]
    rfl
  · have valid : (zone.dateTime now).date.Valid := (now.valid_dateTime _).1
    dsimp only
    rw [evaluateKind_dated valid, t.evaluateKind_chars]

/-- Between the year and the month any mark will do that is none of the digits 0 to 9, even a digit
of another script. -/
theorem local_spellings_agree_after_digit :
    evaluateKind (.ofChars "2014٣02".toList) .utc ⟨0⟩ = .ok ⟨1391212800000⟩ := by
  obtain ⟨-, months, dates, -⟩ := local_spellings_agree .utc ⟨0⟩
  have month := months ⟨['2', '0', '1', '4'], by simp, by decide⟩
    ⟨.char '٣', by decide, ['0', '2'], by simp, rfl⟩ (.ofChars "2014٣02".toList) (by decide)
  have date := (dates ⟨⟨none, 4, .ofChars ['2', '0', '1', '4'] rfl, Nat.le_refl 4⟩,
    .ofChars ['0', '2'] rfl, .ofChars ['0', '1'] rfl⟩).1
  exact month.trans (date.trans (by decide +kernel))

end Almanac
