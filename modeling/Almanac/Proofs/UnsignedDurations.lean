import Almanac.Expression.Basic
import Almanac.Proofs.OpenEnds
import Almanac.Proofs.WrittenDurations

namespace Almanac

/-- The code of a unit is made of letters that end no literal. -/
theorem TimeUnit.isOpen_of_mem_code (u : TimeUnit) : ∀ c ∈ u.code.toList, isOpen c = true :=
  List.all_eq_true.mp (by cases u <;> decide)

/-- A duration without its sign, as it is written: digits and the code of a unit, with white space
around them. -/
structure UnsignedDuration where
  beforeDigits : Blanks
  digits : List Char
  beforeUnit : Blanks
  unit : TimeUnit
  afterUnit : Blanks
  isDigit : ∀ c ∈ digits, c.isDigit = true
  nonempty : digits ≠ []

namespace UnsignedDuration

/-- The digits and the unit. -/
def body (d : UnsignedDuration) : List Char :=
  d.digits ++ (d.beforeUnit.chars ++ d.unit.code.toList)

def chars (d : UnsignedDuration) : List Char :=
  d.beforeDigits.chars ++ d.body ++ d.afterUnit.chars

/-- What the duration is with a sign, unless its digits are too many to be read. -/
def value (d : UnsignedDuration) (negative : Bool) : Except Failure Duration :=
  if digitLimit < d.digits.length then .error (.longNumeral d.digits.length)
  else .ok ⟨if negative then -digitsValue d.digits else digitsValue d.digits, d.unit⟩

variable (d : UnsignedDuration)

theorem exists_first_body : ∃ c rest, d.body = c :: rest ∧ c.isDigit = true := by
  obtain ⟨c, rest, eq⟩ := List.exists_cons_of_ne_nil d.nonempty
  refine ⟨c, rest ++ (d.beforeUnit.chars ++ d.unit.code.toList), ?_, ?_⟩
  · unfold body
    rw [eq, List.cons_append]
  · exact d.isDigit c (by simp [eq])

theorem exists_last_body :
    ∃ c, d.body.getLast? = some c ∧ isOpen c = true ∧ isBlank c = false := by
  obtain ⟨c, last⟩ := Option.ne_none_iff_exists'.mp
    (mt List.getLast?_eq_none_iff.mp d.unit.code_ne_nil)
  have letter := List.mem_of_getLast? last
  refine ⟨c, ?_, d.unit.isOpen_of_mem_code c letter,
    isBlank_of_isAlpha (d.unit.isAlpha_of_mem_code c letter)⟩
  unfold body
  rw [List.getLast?_append, List.getLast?_append, last]
  rfl

theorem not_isSign_of_mem_body {c : Char} (h : c ∈ d.body) : isSign c = false := by
  unfold body at h
  rcases List.mem_append.mp h with digit | h
  · exact not_isSign_of_isDigit (d.isDigit c digit)
  · rcases List.mem_append.mp h with blank | letter
    · exact not_isSign_of_isBlank (d.beforeUnit.blank c blank)
    · exact not_isSign_of_isAlpha (d.unit.isAlpha_of_mem_code c letter)

/-- The duration with a sign or without one. -/
def signed (negative? : Option Bool) : WrittenDuration where
  beforeSign := .none
  negative? := negative?
  beforeDigits := d.beforeDigits
  digits := d.digits
  beforeCode := d.beforeUnit
  code := d.unit.code.toList
  afterCode := d.afterUnit
  isDigit := d.isDigit
  digits_ne_nil := d.nonempty
  isAlpha := d.unit.isAlpha_of_mem_code
  code_ne_nil := d.unit.code_ne_nil

/-- The parts of a duration are found again whatever sign it has. -/
theorem durationParts?_signed (negative? : Option Bool) :
    durationParts? (signText negative? ++ d.chars)
      = some ⟨negative?.getD false, d.digits, d.unit.code.toList⟩ := by
  have whole : (d.signed negative?).chars = signText negative? ++ d.chars := by
    simp [signed, WrittenDuration.chars, WrittenDuration.body, chars, body, Blanks.none]
  rw [← whole]
  exact (d.signed negative?).durationParts?_chars

variable {d} {negative? : Option Bool} {text : List Symbol}

/-- A duration is read from every text that spells it, with white space around it or without. -/
theorem read?_of_spelled
    (spelled : trim (text.map Symbol.reading) = trim (signText negative? ++ d.chars)) :
    Duration.read? text = (d.value (negative?.getD false)).map some := by
  have parts := d.durationParts?_signed negative?
  rw [← durationParts?_trim, ← spelled, durationParts?_trim] at parts
  unfold Duration.read? value
  rw [parts]
  dsimp only
  rw [TimeUnit.ofCode?_code]
  dsimp only
  split <;> rfl

theorem read_of_spelled
    (spelled : trim (text.map Symbol.reading) = trim (signText negative? ++ d.chars)) :
    Duration.read text = d.value (negative?.getD false) := by
  unfold Duration.read
  rw [read?_of_spelled spelled]
  cases d.value (negative?.getD false) <;> rfl

theorem value_negated (d : UnsignedDuration) (negative : Bool) :
    (d.value false).map (fun v => if signOf negative = '-' then v.negated else v)
      = d.value negative := by
  unfold value
  by_cases long : digitLimit < d.digits.length
  · rw [if_pos long, if_pos long]
    rfl
  · rw [if_neg long, if_neg long]
    cases negative <;> rfl

end UnsignedDuration

end Almanac
