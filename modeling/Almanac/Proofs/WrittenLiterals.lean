import Almanac.Expression.Literal
import Almanac.Proofs.Digits
import Almanac.Proofs.UnsignedDurations

namespace Almanac

/-- Decimal digits of any script, as many as a field is wide. -/
structure Digits (width : Nat) where
  chars : List Char
  length_chars : chars.length = width
  isDecimalDigit : ∀ c ∈ chars, isDecimalDigit c = true

namespace Digits

variable {width : Nat}

def ofChars (chars : List Char) (digits : chars.all Almanac.isDecimalDigit = true) :
    Digits chars.length :=
  ⟨chars, rfl, List.all_eq_true.mp digits⟩

def value (f : Digits width) : Nat :=
  digitsValue f.chars

theorem pair?_append (f : Digits 2) (rest : List Char) :
    pair? (f.chars ++ rest) = some (f.value, rest) := by
  obtain ⟨a, b, eq⟩ := List.length_eq_two.mp f.length_chars
  have ha := f.isDecimalDigit a (by simp [eq])
  have hb := f.isDecimalDigit b (by simp [eq])
  unfold value
  rw [eq]
  exact pair?_cons ha hb rest

theorem exists_cons (f : Digits width) (positive : 0 < width) :
    ∃ c rest, f.chars = c :: rest ∧ Almanac.isDecimalDigit c = true := by
  obtain ⟨c, rest, eq⟩ := List.exists_cons_of_length_pos (f.length_chars ▸ positive)
  exact ⟨c, rest, eq, f.isDecimalDigit c (by simp [eq])⟩

theorem not_isBlank (f : Digits width) : ∀ c ∈ f.chars, isBlank c = false := by
  intro c mem
  exact isBlank_of_isDecimalDigit (f.isDecimalDigit c mem)

end Digits

theorem sign?_signOf (negative : Bool) (rest : List Char) :
    sign? (signOf negative :: rest) = some (negative, rest) := by
  cases negative <;> rfl

/-- A year of four or more digits, perhaps with a sign. -/
structure WrittenYear where
  sign? : Option Bool
  width : Nat
  digits : Digits width
  fourOrMore : 4 ≤ width

namespace WrittenYear

def Wide (y : WrittenYear) : Prop :=
  4 < y.width

instance (y : WrittenYear) : Decidable y.Wide :=
  inferInstanceAs (Decidable (_ < _))

def chars (y : WrittenYear) : List Char :=
  signText y.sign? ++ y.digits.chars

def value (y : WrittenYear) : Int :=
  if y.sign? = some true then -y.digits.value else y.digits.value

theorem sign?_append (y : WrittenYear) (rest : List Char) :
    (Almanac.sign? (y.chars ++ rest)).getD (false, y.chars ++ rest)
      = (y.sign?.getD false, y.digits.chars ++ rest) := by
  unfold chars
  cases y.sign? with
  | some negative =>
    simp [signText, sign?_signOf]
  | none =>
    obtain ⟨c, left, eq, digit⟩ := y.digits.exists_cons (Nat.lt_of_lt_of_le (by decide) y.fourOrMore)
    simp [signText, eq, sign?_of_isDecimalDigit digit]

theorem not_isBlank (y : WrittenYear) : ∀ c ∈ y.chars, isBlank c = false := by
  intro c mem
  rcases List.mem_append.mp mem with sign | digit
  · obtain ⟨negative, -, rfl⟩ : ∃ negative, y.sign? = some negative ∧ signOf negative = c := by
      simpa [signText] using sign
    cases negative <;> decide
  · exact y.digits.not_isBlank c digit

end WrittenYear

/-- A date as it is written: the year, the month and the day with dashes between them. -/
structure WrittenDate where
  year : WrittenYear
  month : Digits 2
  day : Digits 2

namespace WrittenDate

def chars (d : WrittenDate) : List Char :=
  d.year.chars ++ '-' :: (d.month.chars ++ '-' :: d.day.chars)

def value (d : WrittenDate) : Date :=
  ⟨d.year.value, d.month.value, d.day.value⟩

/-- A date is read from the head of a text that begins with it. -/
theorem dateHead?_append (d : WrittenDate) (rest : List Char) :
    dateHead? (d.chars ++ rest) = some (decide d.year.Wide, d.value, rest) := by
  have signed := d.year.sign?_append ('-' :: (d.month.chars ++ '-' :: (d.day.chars ++ rest)))
  have stop : ∀ c ∈ ('-' :: (d.month.chars ++ '-' :: (d.day.chars ++ rest))).head?,
      isDecimalDigit c = false := by
    intro c dash
    cases dash
    rfl
  have digits := takeWhile_until d.year.digits.isDecimalDigit stop
  have left := dropWhile_until d.year.digits.isDecimalDigit stop
  have long : ¬ d.year.digits.chars.length < 4 := by
    rw [d.year.digits.length_chars]
    exact Nat.not_lt.mpr d.year.fourOrMore
  have minus : (d.year.sign?.getD false = true) = (d.year.sign? = some true) := by
    cases d.year.sign? with
    | none => simp
    | some negative => simp
  have whole : d.chars ++ rest
      = d.year.chars ++ '-' :: (d.month.chars ++ '-' :: (d.day.chars ++ rest)) := by
    simp [chars]
  unfold dateHead?
  rw [whole, signed]
  dsimp only
  rw [digits, left, if_neg long]
  simp only [Digits.pair?_append, Option.map_some, minus, d.year.digits.length_chars]
  rfl

theorem not_isBlank (d : WrittenDate) : ∀ c ∈ d.chars, isBlank c = false := by
  simp only [chars, List.forall_mem_append, List.forall_mem_cons]
  exact ⟨d.year.not_isBlank, rfl, d.month.not_isBlank, rfl, d.day.not_isBlank⟩

end WrittenDate

/-- A fraction of a second of one to nine digits, after a point or a comma. -/
structure WrittenFraction where
  comma : Bool
  width : Nat
  digits : Digits width
  oneOrMore : 1 ≤ width
  atMostNine : width ≤ 9

namespace WrittenFraction

def mark (f : WrittenFraction) : Char :=
  if f.comma then ',' else '.'

def chars (f : WrittenFraction) : List Char :=
  f.mark :: f.digits.chars

/-- The full milliseconds of the fraction. -/
def millis (f : WrittenFraction) : Nat :=
  f.digits.value * 1000 / 10 ^ f.width

theorem mark_eq (f : WrittenFraction) : f.mark = '.' ∨ f.mark = ',' := by
  unfold mark
  split
  · exact .inr rfl
  · exact .inl rfl

theorem not_isBlank (f : WrittenFraction) : ∀ c ∈ f.chars, isBlank c = false := by
  refine List.forall_mem_cons.mpr ⟨?_, f.digits.not_isBlank⟩
  rcases f.mark_eq with point | comma
  · rw [point]
    rfl
  · rw [comma]
    rfl

end WrittenFraction

/-- The first three digits of a fraction, or all of them with zeros after them, are its full
milliseconds. -/
theorem fractionMillis_eq (digits : List Char) :
    fractionMillis digits = digitsValue digits * 1000 / 10 ^ digits.length := by
  unfold fractionMillis
  rcases Nat.le_total digits.length 3 with short | long
  · rw [List.take_of_length_le short, digitsValue_append_eq, digitsValue_zeros,
      List.length_replicate, Nat.add_zero]
    have thousand : 1000 = 10 ^ (3 - digits.length) * 10 ^ digits.length := by
      rw [← Nat.pow_add, Nat.sub_add_cancel short]
    rw [thousand, ← Nat.mul_assoc, Nat.mul_div_cancel _ (Nat.pow_pos (by decide))]
  · obtain ⟨k, length⟩ := Nat.exists_eq_add_of_le long
    have rest := digitsValue_lt (digits.drop 3)
    have parts := digitsValue_append_eq (digits.take 3) (digits.drop 3)
    have none : 3 - digits.length = 0 := by omega
    have dropped : (digits.drop 3).length = k := by
      rw [List.length_drop]
      omega
    rw [List.take_append_drop, dropped] at parts
    rw [dropped] at rest
    rw [none, List.replicate_zero, List.append_nil, parts, length, Nat.pow_add, Nat.mul_comm (10 ^ 3),
      Nat.mul_div_mul_right _ _ (by decide : 0 < 1000), Nat.mul_comm (digitsValue _),
      Nat.mul_add_div (Nat.pow_pos (by decide)), Nat.div_eq_of_lt rest, Nat.add_zero]

/-- A time as it is written: hours and minutes, then perhaps seconds, then perhaps a fraction. -/
inductive WrittenTime
  | minutes (hour minute : Digits 2)
  | seconds (hour minute second : Digits 2)
  | fraction (hour minute second : Digits 2) (part : WrittenFraction)

/-- A text that does not go on where a time could. -/
def LeavesTime (rest : List Char) : Prop :=
  ∀ c ∈ rest.head?, c ≠ ':' ∧ c ≠ '.' ∧ c ≠ ',' ∧ isDecimalDigit c = false

namespace WrittenTime

def chars : WrittenTime → List Char
  | minutes hour minute => hour.chars ++ ':' :: minute.chars
  | seconds hour minute second => hour.chars ++ ':' :: (minute.chars ++ ':' :: second.chars)
  | fraction hour minute second part =>
    hour.chars ++ ':' :: (minute.chars ++ ':' :: (second.chars ++ part.chars))

def value : WrittenTime → TimeOfDay
  | minutes hour minute => ⟨hour.value, minute.value, 0, 0⟩
  | seconds hour minute second => ⟨hour.value, minute.value, second.value, 0⟩
  | fraction hour minute second part => ⟨hour.value, minute.value, second.value, part.millis⟩

/-- A time is read from the head of a text as far as it goes. -/
theorem timeHead?_append (t : WrittenTime) {rest : List Char} (leaves : LeavesTime rest) :
    timeHead? (t.chars ++ rest) = some (t.value, rest) := by
  cases t with
  | minutes hour minute =>
    simp only [chars, List.append_assoc, List.cons_append, timeHead?, Digits.pair?_append]
    cases rest with
    | nil => rfl
    | cons c rest =>
      have other := (leaves c rfl).1
      simp [value, other]
  | seconds hour minute second =>
    simp only [chars, List.append_assoc, List.cons_append, timeHead?, Digits.pair?_append]
    cases rest with
    | nil => rfl
    | cons c rest =>
      obtain ⟨-, point, comma, -⟩ := leaves c rfl
      simp [value, point, comma]
  | fraction hour minute second part =>
    have stop : ∀ c ∈ rest.head?, isDecimalDigit c = false := fun c mem => (leaves c mem).2.2.2
    have digits := takeWhile_until part.digits.isDecimalDigit stop
    have left := dropWhile_until part.digits.isDecimalDigit stop
    have length := part.digits.length_chars
    have range : 1 ≤ part.width ∧ part.width ≤ 9 :=
      ⟨part.oneOrMore, part.atMostNine⟩
    simp only [chars, WrittenFraction.chars, List.append_assoc, List.cons_append, timeHead?,
      Digits.pair?_append, part.mark_eq, if_true, digits, left, length, range, and_self]
    simp [value, WrittenFraction.millis, fractionMillis_eq, Digits.value, length]

theorem not_isBlank (t : WrittenTime) : ∀ c ∈ t.chars, isBlank c = false := by
  cases t with
  | minutes hour minute =>
    simp only [chars, List.forall_mem_append, List.forall_mem_cons]
    exact ⟨hour.not_isBlank, rfl, minute.not_isBlank⟩
  | seconds hour minute second =>
    simp only [chars, List.forall_mem_append, List.forall_mem_cons]
    exact ⟨hour.not_isBlank, rfl, minute.not_isBlank, rfl, second.not_isBlank⟩
  | fraction hour minute second part =>
    simp only [chars, List.forall_mem_append, List.forall_mem_cons]
    exact ⟨hour.not_isBlank, rfl, minute.not_isBlank, rfl, second.not_isBlank, part.not_isBlank⟩

end WrittenTime

/-- A date and a time with the letter between them. -/
structure WrittenDateTime where
  date : WrittenDate
  capital : Bool
  time : WrittenTime

namespace WrittenDateTime

def mark (w : WrittenDateTime) : Char :=
  if w.capital then 'T' else 't'

def chars (w : WrittenDateTime) : List Char :=
  w.date.chars ++ w.mark :: w.time.chars

def value (w : WrittenDateTime) : DateTime :=
  ⟨w.date.value, w.time.value⟩

theorem mark_eq (w : WrittenDateTime) : w.mark = 'T' ∨ w.mark = 't' := by
  unfold mark
  split
  · exact .inl rfl
  · exact .inr rfl

theorem not_isBlank (w : WrittenDateTime) : ∀ c ∈ w.chars, isBlank c = false := by
  refine List.forall_mem_append.mpr ⟨w.date.not_isBlank, ?_⟩
  refine List.forall_mem_cons.mpr ⟨?_, w.time.not_isBlank⟩
  rcases w.mark_eq with capital | small
  · rw [capital]
    rfl
  · rw [small]
    rfl

/-- After the date and the letter the time is read, and after it an offset if there is more. -/
theorem dated?_append (w : WrittenDateTime) {rest : List Char} (leaves : LeavesTime rest) :
    Literal.dated? (w.chars ++ rest)
      = if rest = [] then some (if w.date.year.Wide then .wideYear else .dateTime w.value)
        else (offsetTail? rest).map fun offset =>
          if w.date.year.Wide then .wideYear else .instant w.value offset := by
  have date := w.date.dateHead?_append (w.mark :: (w.time.chars ++ rest))
  have time := w.time.timeHead?_append leaves
  have whole : w.chars ++ rest = w.date.chars ++ w.mark :: (w.time.chars ++ rest) := by
    simp [chars]
  unfold Literal.dated?
  rw [whole, date]
  simp only [w.mark_eq, if_true, time, decide_eq_true_eq]
  cases rest with
  | nil => rfl
  | cons c rest => rfl

end WrittenDateTime

end Almanac
