import Almanac.Proofs.WrittenDurations

namespace Almanac

namespace WrittenDuration

variable (w : WrittenDuration)

def text : Text :=
  .ofSymbols w.symbols

/-- The decimal value of the digits, which a minus makes negative. -/
def amount : Int :=
  if w.negative? = some true then -Nat.ofDigitChars 10 w.digits 0
  else Nat.ofDigitChars 10 w.digits 0

/-- The duration that is written, unless its unit is unknown or its digits are too many to be
read. -/
def answer : Except Failure Duration :=
  match TimeUnit.ofCode? w.code with
  | none => .error (.unknownUnit w.text (.ofChars w.code))
  | some unit =>
    if w.digits.length ≤ digitLimit then .ok ⟨w.amount, unit⟩
    else .error (.longNumeral w.digits.length)

theorem mem_chars_cases {c : Char} (mem : c ∈ w.chars) :
    isBlank c = true ∨ isSign c = true ∨ c.isDigit = true ∨ c.isAlpha = true := by
  simp only [chars, body, List.mem_append] at mem
  rcases mem with (blank | sign | blank | digit | blank | letter) | blank
  · exact .inl (w.beforeSign.blank c blank)
  · obtain ⟨negative, -, rfl⟩ : ∃ negative, w.negative? = some negative ∧ signOf negative = c := by
      simpa [signText] using sign
    exact .inr (.inl (isSign_signOf negative))
  · exact .inl (w.beforeDigits.blank c blank)
  · exact .inr (.inr (.inl (w.isDigit c digit)))
  · exact .inl (w.beforeCode.blank c blank)
  · exact .inr (.inr (.inr (w.isAlpha c letter)))
  · exact .inl (w.afterCode.blank c blank)

theorem map_reading_symbols : w.symbols.map Symbol.reading = w.chars :=
  map_reading_char w.chars

/-- No surrogate is read as a part of a duration. -/
theorem symbols_eq_iff {text : List Symbol} :
    w.symbols = text ↔ w.chars = text.map Symbol.reading := by
  constructor
  · rintro rfl
    exact w.map_reading_symbols.symm
  · intro read
    have plain : ∀ c ∈ text.map Symbol.reading, c ≠ Char.ofNat 0xE000 := by
      rw [← read]
      rintro c mem rfl
      rcases w.mem_chars_cases mem with other | other | other | other <;> exact absurd other (by decide)
    rw [symbols, read, map_char_reading plain]

theorem read?_symbols : Duration.read? w.symbols = w.answer.map some := by
  have value := digitsValue_eq_ofDigitChars w.isDigit
  have sign : (w.negative?.getD false = true) = (w.negative? = some true) := by
    cases w.negative? <;> simp
  unfold Duration.read? answer
  rw [w.map_reading_symbols, w.durationParts?_chars]
  dsimp only [parts]
  cases TimeUnit.ofCode? w.code with
  | none => rfl
  | some unit =>
    dsimp only
    by_cases short : w.digits.length ≤ digitLimit
    · rw [if_pos short, if_neg (Nat.not_lt.mpr short), value]
      simp only [sign]
      rfl
    · rw [if_neg short, if_pos (Nat.not_le.mp short)]
      rfl

variable {w} {d : Duration} {failure : Failure}

/-- The unit of a written duration is known by its code. -/
def Known (w : WrittenDuration) : Prop :=
  ∃ unit : TimeUnit, unit.code.toList = w.code

theorem answer_of_unknown (unknown : ¬ w.Known) :
    w.answer = .error (.unknownUnit w.text (.ofChars w.code)) := by
  have none : TimeUnit.ofCode? w.code = none :=
    Option.eq_none_iff_forall_ne_some.mpr fun unit found =>
      unknown ⟨unit, TimeUnit.ofCode?_eq_some_iff.mp found⟩
  rw [answer, none]

theorem answer_of_known {unit : TimeUnit} (known : unit.code.toList = w.code) :
    w.answer = if w.digits.length ≤ digitLimit then .ok ⟨w.amount, unit⟩
      else .error (.longNumeral w.digits.length) := by
  rw [answer, TimeUnit.ofCode?_eq_some_iff.mpr known]

theorem answer_eq_ok_iff :
    w.answer = .ok d
      ↔ d.unit.code.toList = w.code ∧ w.digits.length ≤ digitLimit ∧ d.amount = w.amount := by
  constructor
  · intro h
    by_cases known : w.Known
    · obtain ⟨unit, known⟩ := known
      rw [answer_of_known known] at h
      split at h
      next short =>
        cases h
        exact ⟨known, short, rfl⟩
      · cases h
    · rw [answer_of_unknown known] at h
      cases h
  · rintro ⟨known, short, amount⟩
    rw [answer_of_known known, if_pos short, ← amount]

theorem answer_eq_error_iff :
    w.answer = .error failure
      ↔ ¬ w.Known ∧ failure = .unknownUnit w.text (.ofChars w.code)
        ∨ w.Known ∧ digitLimit < w.digits.length ∧ failure = .longNumeral w.digits.length := by
  by_cases known : w.Known
  · simp only [known, not_true, false_and, true_and, false_or]
    obtain ⟨unit, known⟩ := known
    rw [answer_of_known known]
    split
    next short => simp [short]
    next long => simp [Nat.not_le.mp long, eq_comm]
  · simp [answer_of_unknown known, known, eq_comm]

end WrittenDuration

namespace Duration

variable {text : List Symbol} {d : Duration} {failure : Failure}

theorem read?_of_unwritten (unwritten : ∀ w : WrittenDuration, w.symbols ≠ text) :
    read? text = .ok none := by
  have none : durationParts? (text.map Symbol.reading) = none := by
    rw [Option.eq_none_iff_forall_ne_some]
    intro parts found
    obtain ⟨w, chars, -⟩ := durationParts?_eq_some_iff.mp found
    exact unwritten w (w.symbols_eq_iff.mpr chars)
  rw [read?, none]

theorem read?_eq_none_iff : read? text = .ok none ↔ ∀ w : WrittenDuration, w.symbols ≠ text := by
  refine ⟨?_, read?_of_unwritten⟩
  rintro none w rfl
  rw [w.read?_symbols] at none
  cases answer : w.answer <;> rw [answer] at none <;> cases none

/-- Whatever is read but nothing is the answer of a written duration. -/
theorem read?_eq_map_iff {answer : Except Failure Duration} :
    read? text = answer.map some ↔ ∃ w : WrittenDuration, w.symbols = text ∧ w.answer = answer := by
  constructor
  · intro h
    by_cases written : ∃ w : WrittenDuration, w.symbols = text
    · obtain ⟨w, rfl⟩ := written
      refine ⟨w, rfl, ?_⟩
      rw [w.read?_symbols] at h
      cases own : w.answer <;> cases answer <;> rw [own] at h <;> cases h <;> rfl
    · rw [read?_of_unwritten fun w same => written ⟨w, same⟩] at h
      cases answer <;> cases h
  · rintro ⟨w, rfl, rfl⟩
    exact w.read?_symbols

end Duration

namespace WrittenDuration

/-- A duration in its own text. -/
def ofDuration (d : Duration) : WrittenDuration where
  beforeSign := .none
  negative? := if d.amount < 0 then some true else none
  beforeDigits := .none
  digits := Nat.toDigits 10 d.amount.natAbs
  beforeCode := .none
  code := d.unit.code.toList
  afterCode := .none
  isDigit _ := isDigit_of_mem_toDigits
  digits_ne_nil := List.ne_nil_of_length_pos Nat.length_toDigits_pos
  isAlpha := d.unit.isAlpha_of_mem_code
  code_ne_nil := d.unit.code_ne_nil

theorem symbols_ofDuration (d : Duration) : (ofDuration d).symbols = d.text.map .char := by
  refine congrArg (List.map Symbol.char) ?_
  unfold chars body ofDuration Duration.text decimal Blanks.none
  by_cases negative : d.amount < 0
  · simp [negative, signText, signOf]
  · simp [negative, signText]

theorem amount_ofDuration (d : Duration) : (ofDuration d).amount = d.amount := by
  have value : Nat.ofDigitChars 10 (ofDuration d).digits 0 = d.amount.natAbs :=
    Nat.ofDigitChars_ten_toDigits
  have sign : ((ofDuration d).negative? = some true) = (d.amount < 0) := by
    unfold ofDuration
    by_cases negative : d.amount < 0 <;> simp [negative]
  unfold amount
  rw [value]
  simp only [sign]
  split <;> omega

theorem amount_eq (w : WrittenDuration) :
    w.amount = (if w.parts.negative = true then -1 else 1) * Nat.ofDigitChars 10 w.parts.digits 0 := by
  unfold amount parts
  cases w.negative? <;> simp

/-- White space has no say in the answer. A failure is of the same kind and has the same message,
though the text it is about is another. -/
theorem answer_of_parts {w w' : WrittenDuration} (same : w.parts = w'.parts) :
    w.answer.mapError (fun failure => (failure.category?, failure.message))
      = w'.answer.mapError fun failure => (failure.category?, failure.message) := by
  have amount : w.amount = w'.amount := by rw [amount_eq, same, amount_eq]
  have digits : w.digits = w'.digits := congrArg DurationParts.digits same
  have code : w.code = w'.code := congrArg DurationParts.code same
  unfold answer
  rw [amount, digits, code]
  cases TimeUnit.ofCode? w'.code with
  | none => rfl
  | some unit => rfl

end WrittenDuration

namespace Duration

variable {text : List Symbol}

theorem read?_eq_some_iff {d : Duration} :
    read? text = .ok (some d) ↔ ∃ w : WrittenDuration, w.symbols = text ∧ w.answer = .ok d :=
  @read?_eq_map_iff text (.ok d)

theorem read?_eq_error_iff {failure : Failure} :
    read? text = .error failure
      ↔ ∃ w : WrittenDuration, w.symbols = text ∧ w.answer = .error failure :=
  @read?_eq_map_iff text (.error failure)

theorem exists_unit_failure_iff :
    (∃ failure, read? text = .error failure ∧ failure.category? = some .unit)
      ↔ ∃ w : WrittenDuration, w.symbols = text ∧ ¬ w.Known := by
  constructor
  · rintro ⟨failure, refused, unit⟩
    obtain ⟨w, written, answer⟩ := read?_eq_error_iff.mp refused
    rcases WrittenDuration.answer_eq_error_iff.mp answer with ⟨unknown, -⟩ | ⟨-, -, rfl⟩
    · exact ⟨w, written, unknown⟩
    · cases unit
  · rintro ⟨w, written, unknown⟩
    exact ⟨_, read?_eq_error_iff.mpr ⟨w, written, WrittenDuration.answer_of_unknown unknown⟩, rfl⟩

theorem exists_long_failure_iff :
    (∃ failure, read? text = .error failure ∧ failure.category? ≠ some .unit)
      ↔ ∃ w : WrittenDuration, w.symbols = text ∧ w.Known ∧ digitLimit < w.digits.length := by
  constructor
  · rintro ⟨failure, refused, other⟩
    obtain ⟨w, written, answer⟩ := read?_eq_error_iff.mp refused
    rcases WrittenDuration.answer_eq_error_iff.mp answer with ⟨-, rfl⟩ | ⟨known, long, -⟩
    · exact absurd rfl other
    · exact ⟨w, written, known, long⟩
  · rintro ⟨w, written, known, long⟩
    have answer := WrittenDuration.answer_eq_error_iff.mpr (.inr ⟨known, long, rfl⟩)
    exact ⟨_, read?_eq_error_iff.mpr ⟨w, written, answer⟩, nofun⟩

theorem read_eq_bind (text : List Symbol) :
    read text = (read? text).bind fun d? =>
      d?.elim (.error (.malformedDuration (.ofSymbols text))) .ok := by
  unfold read
  cases read? text with
  | error failure => rfl
  | ok d? => cases d? <;> rfl

theorem read?_text {d : Duration} (short : (Nat.toDigits 10 d.amount.natAbs).length ≤ digitLimit) :
    read? (d.text.map .char) = .ok (some d) := by
  rw [← WrittenDuration.symbols_ofDuration, read?_eq_some_iff]
  exact ⟨_, rfl, WrittenDuration.answer_eq_ok_iff.mpr
    ⟨rfl, short, (WrittenDuration.amount_ofDuration d).symm⟩⟩

theorem mapError_map_some {α β : Type} (f : Failure → β) (answer : Except Failure α) :
    (answer.map some).mapError f = (answer.mapError f).map some := by
  cases answer <;> rfl

/-- The texts of durations are read exactly. A duration is read from a text if it is written there
with the code of a unit and with digits that are not too many; its amount is their decimal value. If
other letters stand in the place of the code the unit is refused, and from all other texts nothing
is read, which is a failure where a duration is needed. The own text of a duration reads back, and
white space between the parts of a text is free. -/
theorem read?_written (text : List Symbol) :
    (∀ d, read? text = .ok (some d)
        ↔ ∃ w : WrittenDuration, w.symbols = text ∧ d.unit.code.toList = w.code
          ∧ w.digits.length ≤ digitLimit ∧ d.amount = w.amount)
      ∧ ((∃ failure, read? text = .error failure ∧ failure.category? = some .unit)
        ↔ ∃ w : WrittenDuration, w.symbols = text ∧ ¬ w.Known)
      ∧ ((∃ failure, read? text = .error failure ∧ failure.category? ≠ some .unit)
        ↔ ∃ w : WrittenDuration, w.symbols = text ∧ w.Known ∧ digitLimit < w.digits.length)
      ∧ (read? text = .ok none ↔ ∀ w : WrittenDuration, w.symbols ≠ text)
      ∧ (read text = (read? text).bind fun d? =>
        d?.elim (.error (.malformedDuration (.ofSymbols text))) .ok)
      ∧ (Failure.malformedDuration (.ofSymbols text)).category? = some .duration
      ∧ (∀ d : Duration, (Nat.toDigits 10 d.amount.natAbs).length ≤ digitLimit →
        read? (d.text.map .char) = .ok (some d))
      ∧ ∀ w w' : WrittenDuration, w.parts = w'.parts →
        (read? w.symbols).mapError (fun failure => (failure.category?, failure.message))
          = (read? w'.symbols).mapError fun failure => (failure.category?, failure.message) := by
  refine ⟨fun d => ?_, exists_unit_failure_iff, exists_long_failure_iff, read?_eq_none_iff,
    read_eq_bind text, rfl, fun d => read?_text, fun w w' same => ?_⟩
  · simp only [read?_eq_some_iff, WrittenDuration.answer_eq_ok_iff]
  · have told := WrittenDuration.answer_of_parts same
    rw [w.read?_symbols, w'.read?_symbols, mapError_map_some, mapError_map_some, told]

/-- A zero before the digits and white space of any kind make no difference. -/
theorem read?_written_in_spaces :
    read? (Text.ofChars "\t-\n0100\u00a0y ".toList).symbols = .ok (some ⟨-100, .year⟩)
      ∧ read? ((⟨-100, .year⟩ : Duration).text.map .char) = .ok (some ⟨-100, .year⟩) := by
  constructor
  · refine ((read?_written _).1 _).mpr ⟨⟨⟨['\t'], List.all_eq_true.mp (by decide)⟩, some true,
      ⟨['\n'], List.all_eq_true.mp (by decide)⟩, ['0', '1', '0', '0'],
      ⟨['\u00a0'], List.all_eq_true.mp (by decide)⟩, ['y'], .space,
      List.all_eq_true.mp (by decide), by decide, List.all_eq_true.mp (by decide), by decide⟩,
      by decide, by decide, by decide, by decide⟩
  · exact (read?_written []).2.2.2.2.2.2.1 ⟨-100, .year⟩ (by decide)

end Duration

end Almanac
