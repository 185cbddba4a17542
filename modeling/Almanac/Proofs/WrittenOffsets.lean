import Almanac.Proofs.WrittenLiterals

namespace Almanac

/-- Two digits after a colon that may be left out. -/
structure ColonDigits where
  colon : Bool
  digits : Digits 2

namespace ColonDigits

def chars (f : ColonDigits) : List Char :=
  if f.colon then ':' :: f.digits.chars else f.digits.chars

theorem afterColon_append (f : ColonDigits) (rest : List Char) :
    afterColon (f.chars ++ rest) = f.digits.chars ++ rest := by
  obtain ⟨c, left, eq, digit⟩ := f.digits.exists_cons (by decide)
  unfold chars
  split
  · rfl
  · rw [eq]
    unfold afterColon
    split
    next colon =>
      cases colon
      cases digit
    · rfl

theorem chars_append_ne_nil (f : ColonDigits) (rest : List Char) : f.chars ++ rest ≠ [] := by
  obtain ⟨c, left, eq, -⟩ := f.digits.exists_cons (by decide)
  unfold chars
  split
  · simp
  · simp [eq]

theorem not_isBlank (f : ColonDigits) : ∀ c ∈ f.chars, isBlank c = false := by
  unfold chars
  split
  · exact List.forall_mem_cons.mpr ⟨rfl, f.digits.not_isBlank⟩
  · exact f.digits.not_isBlank

end ColonDigits

/-- What may stand after the hours of an offset. -/
inductive OffsetRest
  | nothing
  | minutes (minute : ColonDigits)
  | seconds (minute second : ColonDigits)

namespace OffsetRest

def chars : OffsetRest → List Char
  | nothing => []
  | minutes minute => minute.chars
  | seconds minute second => minute.chars ++ second.chars

def minute : OffsetRest → Nat
  | nothing => 0
  | minutes minute | seconds minute _ => minute.digits.value

def second : OffsetRest → Nat
  | nothing | minutes _ => 0
  | seconds _ second => second.digits.value

theorem minutesSeconds?_chars (r : OffsetRest) :
    minutesSeconds? r.chars = some (r.minute, r.second) := by
  cases r with
  | nothing => rfl
  | minutes minute =>
    have filled := minute.chars_append_ne_nil []
    have after := minute.afterColon_append []
    have pair := minute.digits.pair?_append []
    rw [List.append_nil] at filled after
    rw [chars, minutesSeconds?, if_neg filled, after, pair]
    rfl
  | seconds minute second =>
    have filled := second.chars_append_ne_nil []
    have after := second.afterColon_append []
    have pair := second.digits.pair?_append []
    rw [List.append_nil] at filled after
    rw [chars, minutesSeconds?, if_neg (minute.chars_append_ne_nil _), minute.afterColon_append,
      Digits.pair?_append]
    dsimp only
    rw [if_neg filled, after, pair]
    rfl

theorem not_isBlank (r : OffsetRest) : ∀ c ∈ r.chars, isBlank c = false := by
  cases r with
  | nothing => simp [chars]
  | minutes minute => exact minute.not_isBlank
  | seconds minute second =>
    exact List.forall_mem_append.mpr ⟨minute.not_isBlank, second.not_isBlank⟩

end OffsetRest

/-- The offset of a clock from UTC as it is written: a letter for UTC itself, or a sign and hours,
then perhaps minutes, then perhaps seconds. -/
inductive WrittenOffset
  | utc (capital : Bool)
  | signed (negative : Bool) (hour : Digits 2) (rest : OffsetRest)

namespace WrittenOffset

def chars : WrittenOffset → List Char
  | utc capital => [if capital then 'Z' else 'z']
  | signed negative hour rest => signOf negative :: (hour.chars ++ rest.chars)

def fields : WrittenOffset → OffsetFields
  | utc _ => ⟨false, 0, 0, 0⟩
  | signed negative hour rest => ⟨negative, hour.value, rest.minute, rest.second⟩

/-- The seconds east of UTC. -/
def seconds : WrittenOffset → Int
  | utc _ => 0
  | signed negative hour rest =>
    (if negative then -1 else 1) * (hour.value * 3600 + rest.minute * 60 + rest.second)

def InRange : WrittenOffset → Prop
  | utc _ => True
  | signed _ hour rest => hour.value ≤ 18 ∧ rest.minute ≤ 59 ∧ rest.second ≤ 59

instance : DecidablePred InRange
  | utc _ => inferInstanceAs (Decidable True)
  | signed _ _ _ => inferInstanceAs (Decidable (_ ∧ _ ∧ _))

theorem total?_fields (o : WrittenOffset) :
    o.fields.total? = if o.InRange then some o.seconds else none := by
  cases o with
  | utc capital => simp [fields, OffsetFields.total?, InRange, seconds]
  | signed negative hour rest =>
    cases negative <;> simp [fields, OffsetFields.total?, InRange, seconds]

theorem chars_ne_nil (o : WrittenOffset) : o.chars ≠ [] := by
  cases o <;> simp [chars]

theorem not_isBlank (o : WrittenOffset) : ∀ c ∈ o.chars, isBlank c = false := by
  cases o with
  | utc capital => cases capital <;> simp [chars] <;> rfl
  | signed negative hour rest =>
    simp only [chars, List.forall_mem_cons, List.forall_mem_append]
    refine ⟨?_, hour.not_isBlank, rest.not_isBlank⟩
    cases negative <;> rfl

/-- A time ends where an offset begins. -/
theorem leavesTime (o : WrittenOffset) : LeavesTime o.chars := by
  intro c first
  cases o with
  | utc capital =>
    cases first
    cases capital <;> simp <;> rfl
  | signed negative hour rest =>
    cases first
    cases negative <;> simp [signOf] <;> rfl

theorem wideOffset?_append (negative : Bool) (hour : Digits 2) (rest : OffsetRest) :
    wideOffset? negative (hour.chars ++ rest.chars) = some (signed negative hour rest).fields := by
  rw [wideOffset?, hour.pair?_append]
  dsimp only
  rw [rest.minutesSeconds?_chars]
  rfl

theorem not_utc (negative : Bool) (hour : Digits 2) (rest : OffsetRest) :
    ¬((signed negative hour rest).chars = ['Z'] ∨ (signed negative hour rest).chars = ['z']) := by
  cases negative <;> simp [chars, signOf]

theorem offsetTail?_chars (o : WrittenOffset) : offsetTail? o.chars = some o.fields := by
  cases o with
  | utc capital => cases capital <;> rfl
  | signed negative hour rest =>
    rw [offsetTail?, if_neg (not_utc negative hour rest), chars, sign?_signOf]
    exact wideOffset?_append negative hour rest

/-- The text of an offset by itself means the same: its hours, of two digits, are tried before hours
of one digit, and what stands before its sign is nothing. -/
theorem readOffset?_chars (o : WrittenOffset) :
    (if o.chars = ['Z'] ∨ o.chars = ['z'] then some 0 else readOffset? o.chars)
      = o.fields.total? := by
  cases o with
  | utc capital => cases capital <;> rfl
  | signed negative hour rest =>
    have whole : withoutLineEnd (signed negative hour rest).chars
        = (signed negative hour rest).chars := by
      apply if_neg
      intro last
      have visible := (signed negative hour rest).not_isBlank '\n' (List.mem_of_getLast? last)
      cases visible
    have name : (signed negative hour rest).chars.takeWhile (!isSign ·) = [] := by
      simp [chars, isSign_signOf]
    have body : (signed negative hour rest).chars.dropWhile (!isSign ·)
        = (signed negative hour rest).chars := by
      simp [chars, isSign_signOf]
    rw [if_neg (not_utc negative hour rest), readOffset?, whole, name, body]
    simp [chars, sign?_signOf, wideOffset?_append]

end WrittenOffset

end Almanac
