import Almanac.Proofs.WrittenOffsets

namespace Almanac

theorem isAlpha_of_isAlpha_toLower {c : Char} (h : c.toLower.isAlpha = true) : c.isAlpha = true := by
  unfold Char.toLower at h
  split at h
  next upper =>
    have isUpper : c.isUpper = true := decide_eq_true upper
    exact Bool.or_eq_true_iff.mpr (.inl isUpper)
  · exact h

/-- Digits that are read from the head of a text stand there. -/
theorem exists_of_pair? {text rest : List Char} {n : Nat} (h : pair? text = some (n, rest)) :
    ∃ f : Digits 2, f.chars ++ rest = text ∧ f.value = n := by
  unfold pair? at h
  split at h
  next a b rest' =>
    split at h
    next x y ha hb =>
      cases h
      have digits : ∀ c ∈ [a, b], isDecimalDigit c = true := by
        simp [isDecimalDigit, ha, hb]
      refine ⟨⟨[a, b], rfl, digits⟩, rfl, ?_⟩
      simp [Digits.value, digitsValue, ha, hb]
    · cases h
  · cases h

theorem exists_of_afterColon {text rest : List Char} {n : Nat}
    (h : pair? (afterColon text) = some (n, rest)) :
    ∃ f : ColonDigits, f.chars ++ rest = text ∧ f.digits.value = n := by
  unfold afterColon at h
  split at h
  next after =>
    obtain ⟨digits, rfl, value⟩ := exists_of_pair? h
    exact ⟨⟨true, digits⟩, rfl, value⟩
  · obtain ⟨digits, rfl, value⟩ := exists_of_pair? h
    exact ⟨⟨false, digits⟩, rfl, value⟩

namespace OffsetRest

/-- Minutes and seconds are read from their written forms and from nothing else. -/
theorem minutesSeconds?_eq_some_iff {text : List Char} {minute second : Nat} :
    minutesSeconds? text = some (minute, second)
      ↔ ∃ r : OffsetRest, r.chars = text ∧ r.minute = minute ∧ r.second = second := by
  constructor
  · intro h
    unfold minutesSeconds? at h
    split at h
    next empty =>
      cases h
      exact ⟨.nothing, empty.symm, rfl, rfl⟩
    · split at h
      · cases h
      next minutes rest first =>
        obtain ⟨f, rfl, rfl⟩ := exists_of_afterColon first
        split at h
        next ends =>
          cases h
          refine ⟨.minutes f, ?_, rfl, rfl⟩
          rw [ends, List.append_nil]
          rfl
        · split at h
          next seconds second =>
            cases h
            obtain ⟨g, rfl, rfl⟩ := exists_of_afterColon second
            refine ⟨.seconds f g, ?_, rfl, rfl⟩
            rw [List.append_nil]
            rfl
          · cases h
  · rintro ⟨r, rfl, rfl, rfl⟩
    exact r.minutesSeconds?_chars

/-- Minutes and seconds have two digits each. -/
theorem even_countP (r : OffsetRest) : Even (r.chars.countP isDecimalDigit) := by
  have two (f : ColonDigits) : f.chars.countP isDecimalDigit = 2 := by
    have all := List.countP_eq_length.mpr f.digits.isDecimalDigit
    have colon : isDecimalDigit ':' = false := by decide
    unfold ColonDigits.chars
    split
    · rw [List.countP_cons_of_neg (by simp [colon]), all, f.digits.length_chars]
    · rw [all, f.digits.length_chars]
  cases r with
  | nothing => exact Even.zero
  | minutes minute =>
    rw [chars, two]
    exact even_two
  | seconds minute second =>
    rw [chars, List.countP_append, two, two]
    exact even_two.add even_two

end OffsetRest

section

variable (negative : Bool)

theorem exists_of_wideOffset? {text : List Char} {fields : OffsetFields}
    (h : wideOffset? negative text = some fields) :
    ∃ (hour : Digits 2) (rest : OffsetRest), hour.chars ++ rest.chars = text
      ∧ fields = ⟨negative, hour.value, rest.minute, rest.second⟩ := by
  unfold wideOffset? at h
  split at h
  · cases h
  next hours left pair =>
    obtain ⟨hour, rfl, rfl⟩ := exists_of_pair? pair
    obtain ⟨⟨minute, second⟩, read, rfl⟩ := Option.map_eq_some_iff.mp h
    obtain ⟨rest, rfl, rfl, rfl⟩ := OffsetRest.minutesSeconds?_eq_some_iff.mp read
    exact ⟨hour, rest, rfl, rfl⟩

theorem narrowOffset?_append (hour : Digits 1) (rest : OffsetRest) :
    narrowOffset? negative (hour.chars ++ rest.chars)
      = some ⟨negative, hour.value, rest.minute, rest.second⟩ := by
  obtain ⟨c, digit⟩ := List.length_eq_one_iff.mp hour.length_chars
  obtain ⟨n, value⟩ := Option.isSome_iff_exists.mp (hour.isDecimalDigit c (by simp [digit]))
  have shown : hour.value = n := by simp [Digits.value, digitsValue, digit, value]
  rw [digit, shown, List.singleton_append, narrowOffset?, value]
  dsimp only
  rw [rest.minutesSeconds?_chars]
  rfl

theorem exists_of_narrowOffset? {text : List Char} {fields : OffsetFields}
    (h : narrowOffset? negative text = some fields) :
    ∃ (hour : Digits 1) (rest : OffsetRest), hour.chars ++ rest.chars = text
      ∧ fields = ⟨negative, hour.value, rest.minute, rest.second⟩ := by
  unfold narrowOffset? at h
  split at h
  · cases h
  next c left =>
    split at h
    · cases h
    next hours value =>
      obtain ⟨⟨minute, second⟩, read, rfl⟩ := Option.map_eq_some_iff.mp h
      obtain ⟨rest, rfl, rfl, rfl⟩ := OffsetRest.minutesSeconds?_eq_some_iff.mp read
      have digit : ∀ d ∈ [c], isDecimalDigit d = true := by simp [isDecimalDigit, value]
      refine ⟨⟨[c], rfl, digit⟩, rest, rfl, ?_⟩
      simp [Digits.value, digitsValue, value]

/-- Hours of one digit are not read as two, for that would leave an odd digit to the minutes. -/
theorem wideOffset?_of_one (hour : Digits 1) (rest : OffsetRest) :
    wideOffset? negative (hour.chars ++ rest.chars) = none := by
  rw [Option.eq_none_iff_forall_ne_some]
  intro fields read
  obtain ⟨hour', rest', same, -⟩ := exists_of_wideOffset? negative read
  have digits := congrArg (List.countP isDecimalDigit) same
  rw [List.countP_append, List.countP_append, List.countP_eq_length.mpr hour.isDecimalDigit,
    List.countP_eq_length.mpr hour'.isDecimalDigit, hour.length_chars, hour'.length_chars] at digits
  obtain ⟨k, even⟩ := rest.even_countP
  obtain ⟨k', even'⟩ := rest'.even_countP
  omega

end

/-- The id of a fixed offset as it is written: perhaps a name of UTC, a sign, hours of one or two
digits, perhaps minutes and seconds, and perhaps a line end. -/
structure WrittenOffsetId where
  name : List Char
  named : [[], "utc".toList, "gmt".toList, "ut".toList].contains (name.map Char.toLower) = true
  negative : Bool
  width : Nat
  hour : Digits width
  oneOrTwo : width = 1 ∨ width = 2
  rest : OffsetRest
  lineEnd : Bool

namespace WrittenOffsetId

variable (w : WrittenOffsetId)

/-- The hours, minutes and seconds. -/
def numbers : List Char :=
  w.hour.chars ++ w.rest.chars

def body : List Char :=
  w.name ++ signOf w.negative :: w.numbers

def chars : List Char :=
  w.body ++ if w.lineEnd then ['\n'] else []

def fields : OffsetFields :=
  ⟨w.negative, w.hour.value, w.rest.minute, w.rest.second⟩

theorem isAlpha_of_mem_name : ∀ c ∈ w.name, c.isAlpha = true := by
  have letters : ∀ name ∈ [[], "utc".toList, "gmt".toList, "ut".toList],
      name.all Char.isAlpha = true := by decide
  intro c mem
  have lower := List.all_eq_true.mp (letters _ (List.contains_iff_mem.mp w.named))
  exact isAlpha_of_isAlpha_toLower (lower _ (List.mem_map_of_mem mem))

theorem not_isSign_of_mem_name : ∀ c ∈ w.name, (!isSign c) = true := by
  intro c mem
  rw [not_isSign_of_isAlpha (w.isAlpha_of_mem_name c mem), Bool.not_false]

theorem not_isBlank_body : ∀ c ∈ w.body, isBlank c = false := by
  simp only [body, numbers, List.forall_mem_append, List.forall_mem_cons]
  exact ⟨fun c mem => isBlank_of_isAlpha (w.isAlpha_of_mem_name c mem),
    not_isBlank_signOf w.negative, w.hour.not_isBlank, w.rest.not_isBlank⟩

theorem withoutLineEnd_chars : withoutLineEnd w.chars = w.body := by
  unfold withoutLineEnd chars
  cases w.lineEnd with
  | true => simp
  | false =>
    have visible : w.body.getLast? ≠ some '\n' := by
      intro last
      have := w.not_isBlank_body '\n' (List.mem_of_getLast? last)
      cases this
    simp [visible]

theorem dropWhile_body : w.body.dropWhile (!isSign ·) = signOf w.negative :: w.numbers :=
  dropWhile_digits w.not_isSign_of_mem_name (by simp [isSign_signOf])

/-- The offset of a written id is read from it. -/
theorem readOffset?_chars : readOffset? w.chars = w.fields.total? := by
  have name : w.body.takeWhile (!isSign ·) = w.name :=
    takeWhile_digits w.not_isSign_of_mem_name (by simp [isSign_signOf])
  unfold readOffset?
  rw [w.withoutLineEnd_chars]
  dsimp only
  rw [name, if_pos w.named, w.dropWhile_body, sign?_signOf]
  obtain ⟨name, named, negative, width, hour, rfl | rfl, rest, lineEnd⟩ := w
  · dsimp only [numbers, fields]
    rw [wideOffset?_of_one, narrowOffset?_append]
    rfl
  · dsimp only [numbers, fields]
    rw [WrittenOffset.wideOffset?_append]
    rfl

end WrittenOffsetId

theorem eq_signOf_cons_of_sign? {text rest : List Char} {negative : Bool}
    (h : sign? text = some (negative, rest)) : text = signOf negative :: rest := by
  unfold sign? at h
  split at h
  · cases h
    rfl
  · cases h
    rfl
  · cases h

theorem exists_lineEnd (text : List Char) :
    ∃ lineEnd : Bool, text = withoutLineEnd text ++ if lineEnd then ['\n'] else [] := by
  unfold withoutLineEnd
  split
  next last => exact ⟨true, (List.dropLast_append_getLast? _ last).symm⟩
  · exact ⟨false, by simp⟩

/-- Offsets are read from their written ids and from nothing else. -/
theorem readOffset?_eq_some_iff {text : List Char} {offset : Int} :
    readOffset? text = some offset
      ↔ ∃ w : WrittenOffsetId, w.chars = text ∧ w.fields.total? = some offset := by
  constructor
  · intro h
    obtain ⟨lineEnd, whole⟩ := exists_lineEnd text
    have parts := List.takeWhile_append_dropWhile (p := (!isSign ·)) (l := withoutLineEnd text)
    unfold readOffset? at h
    dsimp only at h
    split at h
    next named =>
      split at h
      · cases h
      next negative rest signed =>
        rw [eq_signOf_cons_of_sign? signed] at parts
        rw [← parts] at whole
        split at h
        next fields wide =>
          obtain ⟨hour, minutes, rfl, rfl⟩ := exists_of_wideOffset? negative wide
          exact ⟨⟨_, named, negative, 2, hour, .inr rfl, minutes, lineEnd⟩, whole.symm, h⟩
        · obtain ⟨fields, narrow, total⟩ := Option.bind_eq_some_iff.mp h
          obtain ⟨hour, minutes, rfl, rfl⟩ := exists_of_narrowOffset? negative narrow
          exact ⟨⟨_, named, negative, 1, hour, .inl rfl, minutes, lineEnd⟩, whole.symm, total⟩
    · cases h
  · rintro ⟨w, rfl, total⟩
    rw [w.readOffset?_chars, total]

end Almanac
