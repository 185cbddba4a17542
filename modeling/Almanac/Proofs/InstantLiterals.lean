import Almanac.Proofs.ExpressionReading
import Almanac.Proofs.WrittenOffsets

namespace Almanac

/-- The moment counted in days and milliseconds. -/
theorem DateTime.instant_eq_days (c : DateTime) (offset : Int) :
    c.instant offset = ⟨c.date.epochDay * 86400000 + c.time.millis - offset * 1000⟩ := by
  unfold instant epochMillis millisPerDay millisPerSecond
  rfl

/-- Of an instant the fields of date and time are checked before the offset. -/
theorem Literal.toInstant_instant_eq (c : DateTime) (offset : OffsetFields) (text : Text)
    (zone : Zone) (now : Instant) :
    (Literal.instant c offset).toInstant text zone now
      = match c.fault? with
        | some fault => .error (.invalidDate text fault)
        | none => match offset.total? with
          | none => .error (.invalidOffset text)
          | some seconds => .ok (c.instant seconds) := by
  unfold Literal.toInstant DateTime.checked
  cases found : c.fault? with
  | some fault => simp only [found]
  | none =>
    cases total : offset.total? with
    | none => simp only [found, total]
    | some seconds => simp only [found, total]

/-- A date, a time and an offset, as they are written for an instant. -/
structure WrittenInstant where
  dateTime : WrittenDateTime
  offset : WrittenOffset

namespace WrittenInstant

def chars (w : WrittenInstant) : List Char :=
  w.dateTime.chars ++ w.offset.chars

def text (w : WrittenInstant) : Text :=
  .ofChars w.chars

def Wide (w : WrittenInstant) : Prop :=
  w.dateTime.date.year.Wide

instance (w : WrittenInstant) : Decidable w.Wide :=
  inferInstanceAs (Decidable (WrittenYear.Wide _))

/-- The instant that is written, or the first thing that is wrong: the width of the year, then a
field of the date and time, then the offset. -/
def answer (w : WrittenInstant) : Except Failure Instant :=
  let c := w.dateTime.value
  if w.Wide then .error (.wideYear w.text)
  else
    match c.fault? with
    | some fault => .error (.invalidDate w.text fault)
    | none =>
      if w.offset.InRange then
        .ok ⟨c.date.epochDay * 86400000 + c.time.millis - w.offset.seconds * 1000⟩
      else .error (.invalidOffset w.text)

theorem not_isBlank (w : WrittenInstant) : ∀ c ∈ w.chars, isBlank c = false :=
  List.forall_mem_append.mpr ⟨w.dateTime.not_isBlank, w.offset.not_isBlank⟩

theorem read?_chars (w : WrittenInstant) :
    Literal.read? w.chars
      = some (if w.Wide then .wideYear else .instant w.dateTime.value w.offset.fields) := by
  unfold Literal.read? chars
  rw [w.dateTime.dated?_append w.offset.leavesTime, if_neg w.offset.chars_ne_nil,
    w.offset.offsetTail?_chars]
  rfl

theorem toInstant_eq_answer (w : WrittenInstant) (zone : Zone) (now : Instant) :
    (if w.Wide then Literal.wideYear
        else .instant w.dateTime.value w.offset.fields).toInstant w.text zone now = w.answer := by
  unfold answer
  dsimp only
  by_cases wide : w.Wide
  · rw [if_pos wide, if_pos wide]
    rfl
  · rw [if_neg wide, if_neg wide, Literal.toInstant_instant_eq, w.offset.total?_fields]
    cases w.dateTime.value.fault? with
    | some fault => rfl
    | none =>
      dsimp only
      by_cases inRange : w.offset.InRange
      · rw [if_pos inRange, if_pos inRange, ← DateTime.instant_eq_days]
      · rw [if_neg inRange, if_neg inRange]

theorem category_of_answer {w : WrittenInstant} {failure : Failure} (h : w.answer = .error failure) :
    failure.category? = some (if w.Wide then .range else .expression) := by
  unfold answer at h
  dsimp only at h
  by_cases wide : w.Wide
  · rw [if_pos wide] at h
    cases h
    rw [if_pos wide]
    rfl
  · rw [if_neg wide] at h
    rw [if_neg wide]
    split at h
    · cases h
      rfl
    · split at h
      · cases h
      · cases h
        rfl

theorem exists_answer_iff (w : WrittenInstant) :
    (∃ i, w.answer = .ok i) ↔ ¬ w.Wide ∧ w.dateTime.value.Valid ∧ w.offset.InRange := by
  rw [← DateTime.fault?_eq_none_iff]
  unfold answer
  dsimp only
  by_cases wide : w.Wide
  · simp [wide]
  · rw [if_neg wide]
    cases w.dateTime.value.fault? with
    | some fault => simp
    | none => by_cases inRange : w.offset.InRange <;> simp [wide, inRange]

/-- No zone and no present has a say in the answer. -/
theorem evaluate_text (w : WrittenInstant) (zone : Zone) (now : Instant) :
    evaluate (some w.text) zone now = w.answer := by
  rw [← w.toInstant_eq_answer zone now]
  exact evaluate_ofChars (trimSymbols_map_char w.not_isBlank)
    (List.append_ne_nil_of_right_ne_nil _ w.offset.chars_ne_nil) w.read?_chars zone now

/-- The text of an instant is decoded exactly, and nothing but the text has a say in the answer, no
zone and no present. It is out of range if the year has more than four digits, else refused as an
expression if its fields name no date and time or no offset, and else the instant. Read by itself,
as the id of a zone is, the offset means the same. -/
theorem decoded_exactly (w : WrittenInstant) (zone : Zone) (now : Instant) :
    (Literal.read? w.text.chars).map (·.toInstant w.text zone now) = some w.answer
      ∧ evaluate (some w.text) zone now = w.answer
      ∧ (∀ failure, w.answer = .error failure →
        failure.category? = some (if w.Wide then .range else .expression))
      ∧ ((∃ i, w.answer = .ok i) ↔ ¬ w.Wide ∧ w.dateTime.value.Valid ∧ w.offset.InRange)
      ∧ (if w.offset.chars = ['Z'] ∨ w.offset.chars = ['z'] then some 0
          else readOffset? w.offset.chars)
        = if w.offset.InRange then some w.offset.seconds else none := by
  refine ⟨?_, w.evaluate_text zone now, fun _ => category_of_answer, w.exists_answer_iff, ?_⟩
  · rw [text, Text.chars_ofChars, w.read?_chars, Option.map_some]
    exact congrArg some (w.toInstant_eq_answer zone now)
  · rw [w.offset.readOffset?_chars, w.offset.total?_fields]

/-- The Ides of March in the year -44, with a digit of another script in its seconds. -/
theorem decoded_exactly_before_era :
    evaluate (some (.ofChars "-0044-03-15t23:59:5٩,9999+0530".toList)) .utc ⟨0⟩
      = .ok ⟨-63549293400001⟩ := by
  obtain ⟨-, evaluated, -⟩ := decoded_exactly
    ⟨⟨⟨⟨some true, 4, .ofChars ['0', '0', '4', '4'] rfl, Nat.le_refl 4⟩, .ofChars ['0', '3'] rfl,
        .ofChars ['1', '5'] rfl⟩, false,
      .fraction (.ofChars ['2', '3'] rfl) (.ofChars ['5', '9'] rfl) (.ofChars ['5', '٩'] rfl)
        ⟨true, 4, .ofChars ['9', '9', '9', '9'] rfl, by decide, by decide⟩⟩,
      .signed false (.ofChars ['0', '5'] rfl) (.minutes ⟨false, .ofChars ['3', '0'] rfl⟩)⟩ .utc ⟨0⟩
  exact evaluated.trans (by decide +kernel)

end WrittenInstant

end Almanac
