import Almanac.Expression.Literal
import Almanac.Proofs.Digits

namespace Almanac

/-- A character that no literal ends with and that no reader of literals passes over. -/
def isOpen (c : Char) : Bool :=
  !isDecimalDigit c && !"+-:.,TtZz".toList.contains c

theorem isOpen_of_isBlank {c : Char} (h : isBlank c = true) : isOpen c = true := by
  have digit : isDecimalDigit c = false := by
    by_contra digit
    rw [isBlank_of_isDecimalDigit (Bool.of_not_eq_false digit)] at h
    cases h
  have visible : "+-:.,TtZz".toList.all (!isBlank ·) = true := by decide +kernel
  have other : "+-:.,TtZz".toList.contains c = false := by
    by_contra listed
    have mem := List.contains_iff_mem.mp (Bool.of_not_eq_false listed)
    have shown := List.all_eq_true.mp visible c mem
    rw [h] at shown
    cases shown
  unfold isOpen
  rw [digit, other]
  rfl

/-- A text whose last character is left over by the readers of literals. -/
def EndsOpen (text : List Char) : Prop :=
  ∃ c, text.getLast? = some c ∧ isOpen c = true

namespace EndsOpen

variable {text rest : List Char} {c : Char}

theorem ne_nil (h : EndsOpen text) : text ≠ [] := by
  obtain ⟨c, last, -⟩ := h
  rintro rfl
  cases last

theorem tail (h : EndsOpen (c :: rest)) (passed : isOpen c = false) : EndsOpen rest := by
  obtain ⟨d, last, opened⟩ := h
  cases rest with
  | nil =>
    have same : c = d := by simpa using last
    rw [same, opened] at passed
    cases passed
  | cons e rest =>
    rw [List.getLast?_cons_cons] at last
    exact ⟨d, last, opened⟩

theorem append_left (h : EndsOpen text) (before : List Char) : EndsOpen (before ++ text) := by
  obtain ⟨c, last, opened⟩ := h
  refine ⟨c, ?_, opened⟩
  rw [List.getLast?_append, last]
  rfl

theorem append_blanks (h : EndsOpen text) {blanks : List Char}
    (blank : ∀ c ∈ blanks, isBlank c = true) : EndsOpen (text ++ blanks) := by
  cases last : blanks.getLast? with
  | none =>
    rw [List.getLast?_eq_none_iff.mp last, List.append_nil]
    exact h
  | some c =>
    refine ⟨c, ?_, isOpen_of_isBlank (blank c (List.mem_of_getLast? last))⟩
    rw [List.getLast?_append, last]
    rfl

theorem dropWhile (h : EndsOpen text) {p : Char → Bool}
    (passed : ∀ c, p c = true → isOpen c = false) : EndsOpen (text.dropWhile p) := by
  induction text with
  | nil => exact absurd rfl h.ne_nil
  | cons c rest ih =>
    rw [List.dropWhile_cons]
    split
    next hc => exact ih (h.tail (passed c hc))
    · exact h

theorem isOpen_of_isDecimalDigit (h : isDecimalDigit c = true) : isOpen c = false := by
  simp [isOpen, h]

/-- Digits are read from the head of a text and leave its end. -/
theorem pair? (h : EndsOpen text) {n : Nat} (read : Almanac.pair? text = some (n, rest)) :
    EndsOpen rest := by
  unfold Almanac.pair? at read
  split at read
  next a b rest' =>
    split at read
    next x y ha hb =>
      cases read
      have da : isDecimalDigit a = true := by simp [isDecimalDigit, ha]
      have db : isDecimalDigit b = true := by simp [isDecimalDigit, hb]
      exact (h.tail (isOpen_of_isDecimalDigit da)).tail (isOpen_of_isDecimalDigit db)
    · cases read
  · cases read

theorem sign? (h : EndsOpen text) {negative : Bool}
    (read : Almanac.sign? text = some (negative, rest)) : EndsOpen rest := by
  unfold Almanac.sign? at read
  split at read
  · cases read
    exact h.tail (by decide)
  · cases read
    exact h.tail (by decide)
  · cases read

theorem afterColon (h : EndsOpen text) : EndsOpen (Almanac.afterColon text) := by
  unfold Almanac.afterColon
  split
  · exact h.tail (by decide)
  · exact h

theorem dateHead? (h : EndsOpen text) {wide : Bool} {date : Date}
    (read : Almanac.dateHead? text = some (wide, date, rest)) : EndsOpen rest := by
  unfold Almanac.dateHead? at read
  split at read
  next negative body signed =>
    have bodyOpen : EndsOpen body := by
      cases sign : Almanac.sign? text with
      | none =>
        rw [sign] at signed
        cases signed
        exact h
      | some found =>
        rw [sign] at signed
        cases signed
        exact h.sign? sign
    dsimp only at read
    split at read
    · cases read
    · split at read
      next monthOn dropped =>
        have monthOpen := bodyOpen.dropWhile fun _ => isOpen_of_isDecimalDigit
        rw [dropped] at monthOpen
        split at read
        next month dayOn month_eq =>
          obtain ⟨⟨day, left⟩, day_eq, same⟩ := Option.map_eq_some_iff.mp read
          cases same
          have dayOpen := (monthOpen.tail (by decide)).pair? month_eq
          exact (dayOpen.tail (by decide)).pair? day_eq
        · cases read
      · cases read

theorem timeHead? (h : EndsOpen text) {time : TimeOfDay}
    (read : Almanac.timeHead? text = some (time, rest)) : EndsOpen rest := by
  unfold Almanac.timeHead? at read
  split at read
  next hour minuteOn hour_eq =>
    have minuteOpen := (h.pair? hour_eq).tail (by decide)
    split at read
    next minute secondOn minute_eq =>
      have secondOpen := (minuteOpen.pair? minute_eq).tail (by decide)
      split at read
      next second mark left second_eq =>
        have leftOpen := secondOpen.pair? second_eq
        split at read
        next point =>
          dsimp only at read
          split at read
          · cases read
            have passed : isOpen mark = false := by
              rcases point with rfl | rfl <;> decide
            exact (leftOpen.tail passed).dropWhile fun _ => isOpen_of_isDecimalDigit
          · cases read
        · cases read
          exact leftOpen
      next second second_eq => exact absurd rfl (secondOpen.pair? second_eq).ne_nil
      · cases read
    next minute left _ minute_eq =>
      cases read
      exact minuteOpen.pair? minute_eq
    · cases read
  · cases read

theorem minutesSeconds? (h : EndsOpen text) : Almanac.minutesSeconds? text = none := by
  unfold Almanac.minutesSeconds?
  rw [if_neg h.ne_nil]
  split
  · rfl
  next minutes left minutes_eq =>
    have leftOpen := h.afterColon.pair? minutes_eq
    rw [if_neg leftOpen.ne_nil]
    split
    next seconds seconds_eq => exact absurd rfl (leftOpen.afterColon.pair? seconds_eq).ne_nil
    · rfl

theorem wideOffset? (h : EndsOpen text) (negative : Bool) :
    Almanac.wideOffset? negative text = none := by
  unfold Almanac.wideOffset?
  split
  · rfl
  next hours left hours_eq => rw [(h.pair? hours_eq).minutesSeconds?]; rfl

theorem offsetTail? (h : EndsOpen text) : Almanac.offsetTail? text = none := by
  unfold Almanac.offsetTail?
  split
  next zulu =>
    rcases zulu with rfl | rfl <;> exact absurd rfl (h.tail (by decide)).ne_nil
  · rw [Option.bind_eq_none_iff]
    rintro ⟨negative, left⟩ signed
    exact (h.sign? signed).wideOffset? negative

theorem yearMonthParts? (h : EndsOpen text) : Almanac.yearMonthParts? text = none := by
  have left := h.dropWhile fun _ digit => isOpen_of_isDecimalDigit (isDecimalDigit_of_isDigit digit)
  unfold Almanac.yearMonthParts?
  dsimp only
  split
  next empty => exact absurd empty left.ne_nil
  next mark a b eq =>
    rw [eq] at left
    obtain ⟨c, last, opened⟩ := left
    have same : b = c := by simpa using last
    have digit : b.isDigit = false := by
      by_contra digit
      have passed := isOpen_of_isDecimalDigit (isDecimalDigit_of_isDigit (Bool.of_not_eq_false digit))
      rw [same, opened] at passed
      cases passed
    simp [digit]
  · rfl

end EndsOpen

namespace Literal

theorem dated?_of_endsOpen {text : List Char} (h : EndsOpen text) : dated? text = none := by
  unfold dated?
  split
  · rfl
  next wide date date_eq => exact absurd rfl (h.dateHead? date_eq).ne_nil
  next wide date mark left date_eq =>
    have leftOpen := h.dateHead? date_eq
    split
    next begins =>
      have passed : isOpen mark = false := by
        rcases begins with rfl | rfl <;> decide
      split
      · rfl
      next time time_eq => exact absurd rfl ((leftOpen.tail passed).timeHead? time_eq).ne_nil
      next time tail _ time_eq =>
        rw [((leftOpen.tail passed).timeHead? time_eq).offsetTail?]
        rfl
    · rfl

theorem timed?_of_endsOpen {text : List Char} (h : EndsOpen text) : timed? text = none := by
  unfold timed?
  split
  next time time_eq => exact absurd rfl (h.timeHead? time_eq).ne_nil
  · rfl

/-- No literal ends with a character that its readers leave over. -/
theorem read?_of_endsOpen {text : List Char} (h : EndsOpen text) : read? text = none := by
  have yearly : yearly? text = none := by
    unfold yearly?
    rw [h.yearMonthParts?]
  unfold read?
  rw [dated?_of_endsOpen h, timed?_of_endsOpen h, yearly]
  rfl

end Literal

end Almanac
