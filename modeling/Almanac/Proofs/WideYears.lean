import Almanac.Proofs.Forms
import Almanac.Proofs.InstantLiterals
import Almanac.Proofs.LocalLiterals
import Almanac.Proofs.SumReading

namespace Almanac

/-- A year of more than four of the digits 0 to 9. -/
structure WideYear where
  digits : List Char
  isDigit : ∀ c ∈ digits, c.isDigit = true
  wide : 4 < digits.length

/-- A literal with a year of more than four digits. Its other fields may be in range or not. -/
inductive WideLiteral
  | year (year : WideYear) (month? : Option MarkedMonth)
  | date (date : WrittenDate) (wide : date.year.Wide)
  | dateTime (dateTime : WrittenDateTime) (wide : dateTime.date.year.Wide)
  | instant (instant : WrittenInstant) (wide : instant.Wide)

def WideLiteral.symbols : WideLiteral → List Symbol
  | year y month? => y.digits.map .char ++ month?.elim [] MarkedMonth.symbols
  | date d _ => d.chars.map .char
  | dateTime w _ => w.chars.map .char
  | instant w _ => w.chars.map .char

/-- The year as one of four or more digits. -/
def WideYear.plain (y : WideYear) : PlainYear :=
  ⟨y.digits, y.isDigit, Nat.le_of_lt y.wide⟩

namespace WideLiteral

theorem read?_symbols (f : WideLiteral) :
    Literal.read? (f.symbols.map Symbol.reading) = some .wideYear := by
  cases f with
  | year y month? =>
    have chars : (year y month?).symbols.map Symbol.reading = y.plain.chars month? :=
      y.plain.map_reading_symbols month?
    rw [chars, y.plain.read?_chars]
    exact congrArg some (if_pos y.wide)
  | date d wide => rw [symbols, map_reading_char, d.read?_chars, if_pos wide]
  | dateTime w wide => rw [symbols, map_reading_char, w.read?_chars, if_pos wide]
  | instant w wide => rw [symbols, map_reading_char, w.read?_chars, if_pos wide]

/-- A literal neither begins nor ends with white space, though some may stand before its month. -/
theorem trimSymbols_symbols (f : WideLiteral) : trimSymbols f.symbols = f.symbols := by
  cases f with
  | year y month? => exact y.plain.trimSymbols_symbols month?
  | date d wide => exact trimSymbols_map_char d.not_isBlank
  | dateTime w wide => exact trimSymbols_map_char w.not_isBlank
  | instant w wide => exact trimSymbols_map_char w.not_isBlank

/-- A literal with a year of more than four digits is out of range, in every zone and at every time
and with white space around it or without. It has no other form, and no other field is looked at. -/
theorem out_of_range (f : WideLiteral) (text : Text) (lead trail : Blanks)
    (spelled : text.symbols = lead.chars.map .char ++ (f.symbols ++ trail.chars.map .char))
    (zone : Zone) (now : Instant) :
    let literal := Text.ofSymbols f.symbols
    (Literal.read? (f.symbols.map Symbol.reading)).map (·.toInstant literal zone now)
        = some (.error (.wideYear literal))
      ∧ Expression.read f.symbols = .ok (.literal literal .wideYear)
      ∧ (∀ form, (Form.read? form f.symbols).isSome → form = .literal)
      ∧ evaluate (some text) zone now = .error (.wideYear literal)
      ∧ isValid (some text) zone now = .ok false
      ∧ (Failure.wideYear literal).category? = some .range := by
  have read := f.read?_symbols
  have trimmed : trimSymbols text.symbols = f.symbols := by
    rw [spelled, trimSymbols, trimBy_blank_append lead.isBlank_of_mem,
      trimBy_append_blank trail.isBlank_of_mem]
    exact f.trimSymbols_symbols
  have fits : Form.literal.read? f.symbols
      = some (.ok (.literal (.ofSymbols f.symbols) .wideYear)) := by
    rw [Form.read?, read]
    rfl
  have nonempty : trimSymbols text.symbols ≠ [] := by
    intro empty
    rw [trimmed] at empty
    rw [empty] at read
    cases read
  have evaluated : evaluate (some text) zone now = .error (.wideYear (.ofSymbols f.symbols)) := by
    rw [evaluate_literal nonempty (by rw [trimmed, read]), trimmed]
    rfl
  refine ⟨?_, Expression.read_literal read, ?_, evaluated, ?_, rfl⟩
  · rw [read]
    rfl
  · intro form other
    obtain ⟨result, other⟩ := Option.isSome_iff_exists.mp other
    exact Form.eq_of_read? other fits
  · rw [isValid, evaluated]
    rfl

/-- Zeros make a year wide too, and what stands before its month may even be half a character: here
the year 7 and no month, in spaces. -/
theorem out_of_range_in_spaces :
    evaluate (some (.ofUnits [0x20, 0x30, 0x30, 0x30, 0x30, 0x37, 0xD800, 0x39, 0x39, 0x20])) .utc ⟨0⟩
      = .error (.wideYear (.ofUnits [0x30, 0x30, 0x30, 0x30, 0x37, 0xD800, 0x39, 0x39])) := by
  obtain ⟨-, -, -, evaluated, -⟩ := out_of_range
    (.year ⟨['0', '0', '0', '0', '7'], by simp, by simp⟩
      (some ⟨.surrogate ⟨0xD800, by decide⟩, by decide, ['9', '9'], by simp, rfl⟩))
    (.ofUnits [0x20, 0x30, 0x30, 0x30, 0x30, 0x37, 0xD800, 0x39, 0x39, 0x20]) .space .space
    (by decide) .utc ⟨0⟩
  exact evaluated

end WideLiteral

end Almanac
