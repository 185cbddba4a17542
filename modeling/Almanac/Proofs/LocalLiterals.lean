import Almanac.Proofs.ClockReading
import Almanac.Proofs.ExpressionReading
import Almanac.Proofs.PlainYears

namespace Almanac

/-- The instant that a text names in a zone, or the kind of its failure. -/
def evaluateKind (text : Text) (zone : Zone) (now : Instant) : Except (Option Category) Instant :=
  (evaluate (some text) zone now).mapError Failure.category?

/-- What a date and time on the clocks of a zone names: an instant, unless one of its fields is out
of range. -/
def DateTime.localAnswer (c : DateTime) (zone : Zone) : Except (Option Category) Instant :=
  if c.Valid then .ok (zone.instant c none) else .error (some .expression)

/-- What a date and time names if its year may have more than four digits. -/
def DateTime.datedAnswer (wide : Prop) [Decidable wide] (c : DateTime) (zone : Zone) :
    Except (Option Category) Instant :=
  if wide then .error (some .range) else c.localAnswer zone

namespace Literal

variable (text : Text) (zone : Zone) (now : Instant)

theorem kind_dateTime (c : DateTime) :
    ((dateTime c).toInstant text zone now).mapError Failure.category? = c.localAnswer zone := by
  unfold toInstant DateTime.localAnswer
  dsimp only
  rcases c.checked_cases with ⟨valid, passed⟩ | ⟨invalid, fault, failed⟩
  · rw [passed, if_pos valid]
    rfl
  · rw [failed, if_neg invalid]
    rfl

/-- The date of the present is one of the calendar, so that only the time can be refused. -/
theorem kind_timeOfDay (time : TimeOfDay) :
    ((timeOfDay time).toInstant text zone now).mapError Failure.category?
      = (⟨(zone.dateTime now).date, time⟩ : DateTime).localAnswer zone := by
  unfold toInstant DateTime.localAnswer DateTime.atTime
  dsimp only
  rcases (⟨(zone.dateTime now).date, time⟩ : DateTime).checked_cases with
    ⟨valid, passed⟩ | ⟨invalid, fault, failed⟩
  · rw [passed, if_pos valid]
    rfl
  · rw [failed, if_neg invalid]
    rfl

theorem kind_dated (wide : Prop) [Decidable wide] (c : DateTime) :
    ((if wide then wideYear else dateTime c).toInstant text zone now).mapError Failure.category?
      = c.datedAnswer wide zone := by
  unfold DateTime.datedAnswer
  by_cases h : wide
  · rw [if_pos h, if_pos h]
    rfl
  · rw [if_neg h, if_neg h, kind_dateTime]

end Literal

theorem evaluateKind_ofChars {cs : List Char} {l : Literal}
    (visible : ∀ c ∈ cs, isBlank c = false) (nonempty : cs ≠ [])
    (literal : Literal.read? cs = some l) (zone : Zone) (now : Instant) :
    evaluateKind (.ofChars cs) zone now
      = (l.toInstant (.ofChars cs) zone now).mapError Failure.category? := by
  rw [evaluateKind, evaluate_ofChars (trimSymbols_map_char visible) nonempty literal]

theorem leavesTime_nil : LeavesTime [] :=
  fun _ first => nomatch first

namespace WrittenDate

variable (d : WrittenDate)

theorem chars_ne_nil : d.chars ≠ [] := by
  simp [chars]

theorem read?_chars :
    Literal.read? d.chars
      = some (if d.year.Wide then .wideYear else .dateTime ⟨d.value, .midnight⟩) := by
  have head := d.dateHead?_append []
  rw [List.append_nil] at head
  rw [Literal.read?, Literal.dated?, head]
  simp only [decide_eq_true_eq]
  rfl

theorem evaluateKind_chars (zone : Zone) (now : Instant) :
    evaluateKind (.ofChars d.chars) zone now
      = (⟨d.value, .midnight⟩ : DateTime).datedAnswer d.year.Wide zone := by
  rw [evaluateKind_ofChars d.not_isBlank d.chars_ne_nil d.read?_chars, Literal.kind_dated]

end WrittenDate

namespace WrittenDateTime

variable (w : WrittenDateTime)

theorem chars_ne_nil : w.chars ≠ [] := by
  simp [chars]

theorem read?_chars :
    Literal.read? w.chars
      = some (if w.date.year.Wide then .wideYear else .dateTime w.value) := by
  have dated := w.dated?_append leavesTime_nil
  rw [List.append_nil, if_pos rfl] at dated
  rw [Literal.read?, dated]
  rfl

theorem evaluateKind_chars (zone : Zone) (now : Instant) :
    evaluateKind (.ofChars w.chars) zone now = w.value.datedAnswer w.date.year.Wide zone := by
  rw [evaluateKind_ofChars w.not_isBlank w.chars_ne_nil w.read?_chars, Literal.kind_dated]

end WrittenDateTime

namespace WrittenTime

variable (t : WrittenTime)

/-- The hours at its head. -/
def hour : WrittenTime → Digits 2
  | minutes hour _ | seconds hour _ _ | fraction hour _ _ _ => hour

theorem exists_chars : ∃ rest, t.chars = t.hour.chars ++ ':' :: rest := by
  cases t with
  | minutes hour minute => exact ⟨_, rfl⟩
  | seconds hour minute second => exact ⟨_, rfl⟩
  | fraction hour minute second part => exact ⟨_, rfl⟩

/-- The digits at the head of a time are too few for a year. -/
theorem dateHead?_chars : dateHead? t.chars = none := by
  obtain ⟨rest, whole⟩ := t.exists_chars
  obtain ⟨first, left, begins, digit⟩ := t.hour.exists_cons (by decide)
  have unsigned : sign? t.chars = none := by
    rw [whole, begins]
    exact sign?_of_isDecimalDigit digit _
  have digits : t.chars.takeWhile isDecimalDigit = t.hour.chars := by
    rw [whole, takeWhile_digits t.hour.isDecimalDigit (by decide)]
  unfold dateHead?
  rw [unsigned]
  dsimp only [Option.getD_none]
  rw [digits, t.hour.length_chars, if_pos (by decide)]

theorem read?_chars : Literal.read? t.chars = some (.timeOfDay t.value) := by
  have head := t.timeHead?_append leavesTime_nil
  rw [List.append_nil] at head
  rw [Literal.read?, Literal.dated?, t.dateHead?_chars, Literal.timed?, head]
  rfl

theorem chars_ne_nil : t.chars ≠ [] := by
  obtain ⟨rest, whole⟩ := t.exists_chars
  simp [whole]

theorem evaluateKind_chars (zone : Zone) (now : Instant) :
    evaluateKind (.ofChars t.chars) zone now
      = (⟨(zone.dateTime now).date, t.value⟩ : DateTime).localAnswer zone := by
  rw [evaluateKind_ofChars t.not_isBlank t.chars_ne_nil t.read?_chars, Literal.kind_timeOfDay]

end WrittenTime

namespace PlainYear

variable (y : PlainYear)

theorem evaluateKind_symbols {month? : Option MarkedMonth} {text : Text}
    (spelled : text.symbols = y.symbols month?) (zone : Zone) (now : Instant) :
    evaluateKind text zone now
      = (⟨y.firstDay month?, .midnight⟩ : DateTime).datedAnswer (4 < y.digits.length) zone := by
  have trimmed : trimSymbols text.symbols = y.symbols month? := by
    rw [spelled, y.trimSymbols_symbols]
  have literal := y.read?_chars month?
  rw [← y.map_reading_symbols, ← trimmed] at literal
  have filled : trimSymbols text.symbols ≠ [] := by
    rw [trimmed]
    exact List.append_ne_nil_of_left_ne_nil (by simpa using y.digits_ne_nil) _
  rw [evaluateKind, evaluate_literal filled literal, Literal.kind_dated]

end PlainYear

end Almanac
