import Almanac.Proofs.LiteralMarks
import Almanac.Proofs.WrittenLiterals

namespace Almanac

/-- A year of four or more of the digits 0 to 9. -/
structure PlainYear where
  digits : List Char
  isDigit : ∀ c ∈ digits, c.isDigit = true
  fourOrMore : 4 ≤ digits.length

/-- A month of two of the digits 0 to 9 after any one symbol that is none of them. -/
structure MarkedMonth where
  mark : Symbol
  apart : mark.reading.isDigit = false
  digits : List Char
  isDigit : ∀ c ∈ digits, c.isDigit = true
  length_digits : digits.length = 2

namespace MarkedMonth

def symbols (m : MarkedMonth) : List Symbol :=
  m.mark :: m.digits.map .char

def chars (m : MarkedMonth) : List Char :=
  m.mark.reading :: m.digits

theorem map_reading_symbols (m : MarkedMonth) : m.symbols.map Symbol.reading = m.chars := by
  rw [symbols, List.map_cons, map_reading_char]
  rfl

end MarkedMonth

theorem exists_last_of_isDigit {cs : List Char} (digits : ∀ c ∈ cs, c.isDigit = true)
    (nonempty : cs ≠ []) :
    ∃ c, (cs.map Symbol.char).getLast? = some (.char c) ∧ isBlank c = false := by
  obtain ⟨c, last⟩ := Option.ne_none_iff_exists'.mp (mt List.getLast?_eq_none_iff.mp nonempty)
  refine ⟨c, ?_, isBlank_of_isDigit (digits c (List.mem_of_getLast? last))⟩
  rw [List.getLast?_map, last, Option.map_some]

theorem not_mem_of_isDigit {cs : List Char} {c : Char} (digits : ∀ c ∈ cs, c.isDigit = true)
    (other : c.isDigit = false) : c ∉ cs := by
  intro mem
  rw [digits c mem] at other
  cases other

namespace PlainYear

variable (y : PlainYear) (month? : Option MarkedMonth)

/-- The symbols of the year and of the month, if there is one. -/
def symbols : List Symbol :=
  y.digits.map .char ++ month?.elim [] MarkedMonth.symbols

def chars : List Char :=
  y.digits ++ month?.elim [] MarkedMonth.chars

/-- The first day of the year, or of the month if there is one. -/
def firstDay : Date :=
  ⟨digitsValue y.digits, (month?.map fun m => (digitsValue m.digits : Int)).getD 1, 1⟩

theorem digits_ne_nil : y.digits ≠ [] :=
  List.ne_nil_of_length_pos (Nat.lt_of_lt_of_le (by decide) y.fourOrMore)

theorem map_reading_symbols : (y.symbols month?).map Symbol.reading = y.chars month? := by
  rw [symbols, List.map_append, map_reading_char]
  cases month? with
  | none => rfl
  | some m => rw [Option.elim_some, m.map_reading_symbols, chars, Option.elim_some]

/-- There is one dash at most, which may stand before the month. -/
theorem dateHead?_chars : dateHead? (y.chars month?) = none := by
  rw [Option.eq_none_iff_forall_ne_some]
  rintro ⟨wide, date, rest⟩ read
  obtain ⟨before, after, split, mem⟩ := exists_dashes_of_dateHead? read
  have two : 2 ≤ (y.chars month?).count '-' := by
    have := List.count_pos_iff.mpr mem
    rw [split, List.count_append, List.count_cons_self]
    omega
  have year := List.count_eq_zero.mpr (not_mem_of_isDigit y.isDigit (c := '-') (by decide))
  rw [chars, List.count_append, year] at two
  cases month? with
  | none => simp at two
  | some m =>
    have month := List.count_eq_zero.mpr (not_mem_of_isDigit m.isDigit (c := '-') (by decide))
    rw [Option.elim_some, MarkedMonth.chars, List.count_cons, month] at two
    split at two <;> omega

/-- The third character of a time is a colon, and that of a year a digit. -/
theorem timeHead?_chars : timeHead? (y.chars month?) = none := by
  rw [Option.eq_none_iff_forall_ne_some]
  rintro ⟨time, rest⟩ read
  obtain ⟨a, b, left, split⟩ := exists_colon_of_timeHead? read
  have long : 2 < y.digits.length := Nat.lt_of_lt_of_le (by decide) y.fourOrMore
  have third := congrArg (·[2]?) split
  simp only [chars, List.getElem?_append_left long, List.getElem?_eq_getElem long,
    List.getElem?_cons_succ, List.getElem?_cons_zero, Option.some.injEq] at third
  have digit := y.isDigit _ (List.getElem_mem long)
  rw [third] at digit
  cases digit

theorem yearMonthParts?_chars :
    yearMonthParts? (y.chars month?) = some (y.digits, month?.map MarkedMonth.digits) := by
  unfold yearMonthParts? chars
  cases month? with
  | none =>
    have stop : ∀ c ∈ ([] : List Char).head?, c.isDigit = false := by simp
    rw [Option.elim_none, takeWhile_until y.isDigit stop, dropWhile_until y.isDigit stop]
    rfl
  | some m =>
    have stop : ∀ c ∈ m.chars.head?, c.isDigit = false := by
      simpa [MarkedMonth.chars] using m.apart
    obtain ⟨a, b, digits⟩ := List.length_eq_two.mp m.length_digits
    have ha := m.isDigit a (by simp [digits])
    have hb := m.isDigit b (by simp [digits])
    rw [Option.elim_some, takeWhile_until y.isDigit stop, dropWhile_until y.isDigit stop,
      MarkedMonth.chars, Option.map_some, digits]
    simp [ha, hb]

/-- A year and a month are read as nothing else, and only if the year is not wide. -/
theorem read?_chars :
    Literal.read? (y.chars month?)
      = some (if 4 < y.digits.length then .wideYear
        else .dateTime ⟨y.firstDay month?, .midnight⟩) := by
  have long : ¬ y.digits.length < 4 := Nat.not_lt.mpr y.fourOrMore
  unfold Literal.read? Literal.dated? Literal.timed? Literal.yearly?
  rw [y.dateHead?_chars, y.timeHead?_chars, y.yearMonthParts?_chars]
  dsimp only
  rw [if_neg long, firstDay]
  by_cases wide : 4 < y.digits.length
  · rw [if_pos wide, if_pos wide]
    rfl
  · rw [if_neg wide, if_neg wide]
    cases month? <;> rfl

/-- There is white space neither before the year nor after it and the month, though some may stand
between them. -/
theorem trimSymbols_symbols : trimSymbols (y.symbols month?) = y.symbols month? := by
  obtain ⟨first, rest, begins⟩ := List.exists_cons_of_ne_nil y.digits_ne_nil
  have shown := isBlank_of_isDigit (y.isDigit first (by simp [begins]))
  have begins' : (y.symbols month?).head? = some (.char first) := by
    simp [symbols, begins]
  obtain ⟨last, ends, visible⟩ :
      ∃ c, (y.symbols month?).getLast? = some (.char c) ∧ isBlank c = false := by
    cases month? with
    | none => simpa [symbols] using exists_last_of_isDigit y.isDigit y.digits_ne_nil
    | some m =>
      have filled : m.digits ≠ [] := List.ne_nil_of_length_pos (by rw [m.length_digits]; decide)
      obtain ⟨c, last, visible⟩ := exists_last_of_isDigit m.isDigit filled
      refine ⟨c, ?_, visible⟩
      rw [symbols, Option.elim_some, MarkedMonth.symbols, List.getLast?_append,
        List.getLast?_cons, last]
      rfl
  exact trimBy_of_ends begins' ends shown visible

end PlainYear

end Almanac
