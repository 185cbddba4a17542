import Almanac.Expression.Literal
import Mathlib.Data.List.TakeWhile

namespace Almanac

/-- The characters that a literal shows: two dashes, a colon, or one of the digits 0 to 9 at its
end. -/
def LiteralMarks (text : List Char) : Prop :=
  (∃ before after, text = before ++ '-' :: after ∧ '-' ∈ before) ∨ ':' ∈ text
    ∨ ∃ c, text.getLast? = some c ∧ c.isDigit = true

theorem exists_cons_of_pair? {text rest : List Char} {n : Nat} (h : pair? text = some (n, rest)) :
    ∃ a b, text = a :: b :: rest := by
  unfold pair? at h
  split at h
  next a b rest' =>
    split at h
    · cases h
      exact ⟨a, b, rfl⟩
    · cases h
  · cases h

theorem exists_append_of_sign? (text : List Char) :
    ∃ lead, text = lead ++ ((sign? text).getD (false, text)).2 := by
  unfold sign?
  split
  · exact ⟨['+'], rfl⟩
  · exact ⟨['-'], rfl⟩
  · exact ⟨[], rfl⟩

theorem exists_dashes_of_dateHead? {text rest : List Char} {wide : Bool} {date : Date}
    (read : dateHead? text = some (wide, date, rest)) :
    ∃ before after, text = before ++ '-' :: after ∧ '-' ∈ before := by
  obtain ⟨lead, begins⟩ := exists_append_of_sign? text
  unfold dateHead? at read
  split at read
  next negative body signed =>
    rw [signed] at begins
    have digits := List.takeWhile_append_dropWhile (p := isDecimalDigit) (l := body)
    dsimp only at read begins
    split at read
    · cases read
    · split at read
      next monthOn dropped =>
        split at read
        next month dayOn month_eq =>
          obtain ⟨a, b, rfl⟩ := exists_cons_of_pair? month_eq
          obtain ⟨year, hy⟩ : ∃ year, body.takeWhile isDecimalDigit = year := ⟨_, rfl⟩
          rw [dropped, hy] at digits
          refine ⟨lead ++ year ++ ['-', a, b], dayOn, ?_, by simp⟩
          rw [begins, ← digits]
          simp
        · cases read
      · cases read

theorem exists_colon_of_timeHead? {text rest : List Char} {time : TimeOfDay}
    (read : timeHead? text = some (time, rest)) : ∃ a b left, text = a :: b :: ':' :: left := by
  unfold timeHead? at read
  split at read
  next hour left hour_eq =>
    obtain ⟨a, b, rfl⟩ := exists_cons_of_pair? hour_eq
    exact ⟨a, b, left, rfl⟩
  · cases read

theorem colon_mem_of_timeHead? {text rest : List Char} {time : TimeOfDay}
    (read : timeHead? text = some (time, rest)) : ':' ∈ text := by
  obtain ⟨a, b, left, rfl⟩ := exists_colon_of_timeHead? read
  simp

theorem exists_digit_of_yearMonthParts? {text year : List Char} {month : Option (List Char)}
    (read : yearMonthParts? text = some (year, month)) (long : 4 ≤ year.length) :
    ∃ c, text.getLast? = some c ∧ c.isDigit = true := by
  have digits := List.takeWhile_append_dropWhile (p := Char.isDigit) (l := text)
  unfold yearMonthParts? at read
  dsimp only at read
  split at read
  next dropped =>
    cases read
    rw [dropped, List.append_nil] at digits
    rw [digits] at long
    have nonempty : text ≠ [] := List.ne_nil_of_length_pos (by omega)
    obtain ⟨c, last⟩ := Option.ne_none_iff_exists'.mp (mt List.getLast?_eq_none_iff.mp nonempty)
    have mem := List.mem_of_getLast? last
    rw [← digits] at mem
    exact ⟨c, last, List.mem_takeWhile_imp mem⟩
  next mark a b dropped =>
    split at read
    next found =>
      rw [dropped] at digits
      refine ⟨b, ?_, (Bool.and_eq_true_iff.mp found).2⟩
      rw [← digits]
      simp
    · cases read
  · cases read

namespace Literal

theorem marks_of_dated? {text : List Char} {l : Literal} (read : dated? text = some l) :
    LiteralMarks text := by
  unfold dated? at read
  split at read
  · cases read
  next date_eq => exact .inl (exists_dashes_of_dateHead? date_eq)
  next date_eq => exact .inl (exists_dashes_of_dateHead? date_eq)

theorem marks_of_timed? {text : List Char} {l : Literal} (read : timed? text = some l) :
    LiteralMarks text := by
  unfold timed? at read
  split at read
  next time_eq => exact .inr (.inl (colon_mem_of_timeHead? time_eq))
  · cases read

theorem marks_of_yearly? {text : List Char} {l : Literal} (read : yearly? text = some l) :
    LiteralMarks text := by
  unfold yearly? at read
  split at read
  · cases read
  next year month parts =>
    split at read
    · cases read
    next long => exact .inr (.inr (exists_digit_of_yearMonthParts? parts (by omega)))

theorem marks_of_read? {text : List Char} {l : Literal} (h : read? text = some l) :
    LiteralMarks text := by
  unfold read? at h
  rcases Option.or_eq_some_iff.mp h with dated | ⟨-, other⟩
  · exact marks_of_dated? dated
  · rcases Option.or_eq_some_iff.mp other with timed | ⟨-, yearly⟩
    · exact marks_of_timed? timed
    · exact marks_of_yearly? yearly

end Literal

end Almanac
