import Almanac.Proofs.InstantLiterals
import Almanac.Proofs.IsoOrder
import Almanac.Proofs.LocalSpellings
import Almanac.Proofs.LookupRange

namespace Almanac

/-- What is left of a text without its first point and the digits after it. -/
def withoutFraction (cs : List Char) : List Char :=
  cs.takeWhile (· != '.') ++ ((cs.dropWhile (· != '.')).drop 1).dropWhile Char.isDigit

/-- The characters of an ISO text that separate its fields or name UTC. -/
def isSeparator (c : Char) : Bool :=
  c = '-' ∨ c = ':' ∨ c = 'T' ∨ c = 'Z'

/-- What is left of a text without separators. A sign at its start is none. -/
def withoutSeparators : List Char → List Char
  | [] => []
  | first :: rest => first :: rest.filter (!isSeparator ·)

theorem filter_digits {cs : List Char} (digits : ∀ c ∈ cs, c.isDigit = true) :
    cs.filter (!isSeparator ·) = cs := by
  rw [List.filter_eq_self]
  intro c mem
  have other : isSeparator c = false := by
    rw [isSeparator, decide_eq_false_iff_not]
    rintro (rfl | rfl | rfl | rfl) <;> cases digits _ mem
  rw [other]
  rfl

theorem filter_padded (width n : Nat) :
    (padded width n).filter (!isSeparator ·) = padded width n :=
  filter_digits fun _ => isDigit_of_mem_padded

/-- Only the first character of a year can be other than a digit. -/
theorem yearForm_eq_cons (year : Int) :
    ∃ c rest, yearForm year = c :: rest ∧ (c = '+' ∨ c = '-' ∨ c.isDigit = true)
      ∧ ∀ d ∈ rest, d.isDigit = true := by
  unfold yearForm
  split
  next wide =>
    rw [decimal_eq_padded wide]
    exact ⟨'+', _, rfl, .inl rfl, fun _ => isDigit_of_mem_padded⟩
  · split
    · exact ⟨'-', _, rfl, .inr (.inl rfl), fun _ => isDigit_of_mem_padded⟩
    · obtain ⟨c, rest, eq, digit⟩ := exists_cons_padded (show 0 < 4 by decide) year.natAbs
      refine ⟨c, rest, eq, .inr (.inr digit), fun d mem => ?_⟩
      exact @isDigit_of_mem_padded 4 year.natAbs d (by simp [eq, mem])

theorem yearForm_injective : Function.Injective yearForm := by
  intro a b same
  have read := sign?_yearForm a []
  rw [same, sign?_yearForm b, Prod.mk.injEq, List.append_nil, List.append_nil] at read
  obtain ⟨sign, digits⟩ := read
  have size := congrArg digitsValue digits
  rw [digitsValue_padded, digitsValue_padded] at size
  have sign := decide_eq_decide.mp sign
  omega

/-- A field at the head of a text can be told from what comes after it. -/
theorem Fits.padded_append_inj {width : Nat} {a b : Int} (ha : Fits width a) (hb : Fits width b)
    (positive : 0 < width) {xs ys : List Char} :
    padded width a.toNat ++ xs = padded width b.toNat ++ ys ↔ a = b ∧ xs = ys := by
  rw [← Std.compare_eq_iff_eq, ha.compare_padded hb positive, Ordering.then_eq_eq,
    Std.compare_eq_iff_eq, Std.compare_eq_iff_eq]

namespace DateTime

variable {c d : DateTime}

/-- The start of the second that a clock shows. -/
def atSecond (c : DateTime) : DateTime :=
  { c with time := { c.time with millisecond := 0 } }

theorem Valid.atSecond (h : c.Valid) : c.atSecond.Valid := by
  obtain ⟨date, hour, minute, second, -⟩ := h
  exact ⟨date, hour, minute, second, by simp [DateTime.atSecond]⟩

theorem Valid.epochMillis_atSecond (h : c.Valid) :
    c.atSecond.epochMillis 0 = c.wallSecond * 1000 := by
  obtain ⟨-, -, -, -, low, high⟩ := h
  rw [wallSecond_eq]
  unfold epochMillis TimeOfDay.millis DateTime.atSecond millisPerDay millisPerSecond
  dsimp only
  omega

theorem ne_point_of_mem_secondsText {x : Char} (h : x ∈ c.secondsText) : x ≠ '.' := by
  obtain ⟨first, rest, eq, start, digits⟩ := yearForm_eq_cons c.date.year
  rintro rfl
  have sign : '.' ≠ first := by
    rintro rfl
    simp at start
  have year : '.' ∉ rest := fun mem => by
    cases digits '.' mem
  have padded {width n : Nat} : '.' ∉ padded width n := fun mem => by
    cases isDigit_of_mem_padded mem
  simp [secondsText, Date.text, TimeOfDay.secondsText, eq, sign, year, padded] at h

theorem withoutFraction_millisText (c : DateTime) :
    withoutFraction (c.millisText ++ ['Z']) = c.secondsText ++ ['Z'] := by
  have whole : c.millisText ++ ['Z']
      = c.secondsText ++ '.' :: (padded 3 c.time.millisecond.toNat ++ ['Z']) := by
    simp [millisText, TimeOfDay.millisText, secondsText]
  have before : ∀ x ∈ c.secondsText, (x != '.') = true := fun _ mem =>
    bne_iff_ne.mpr (ne_point_of_mem_secondsText mem)
  rw [withoutFraction, whole, takeWhile_digits before rfl, dropWhile_digits before rfl,
    List.drop_one, List.tail_cons, dropWhile_digits (fun _ => isDigit_of_mem_padded) rfl]

theorem withoutSeparators_secondsText (c : DateTime) :
    withoutSeparators (c.secondsText ++ ['Z']) = c.compactText := by
  obtain ⟨first, rest, eq, -, digits⟩ := yearForm_eq_cons c.date.year
  have separators : isSeparator '-' = true ∧ isSeparator ':' = true ∧ isSeparator 'T' = true
      ∧ isSeparator 'Z' = true := by decide
  simp [secondsText, compactText, Date.text, TimeOfDay.secondsText, eq, withoutSeparators,
    filter_digits digits, filter_padded, separators]

/-- The fields below the year, down to the second. -/
def fieldsText (c : DateTime) : List Char :=
  padded 2 c.date.month.toNat ++ (padded 2 c.date.day.toNat ++ (padded 2 c.time.hour.toNat
    ++ (padded 2 c.time.minute.toNat ++ (padded 2 c.time.second.toNat ++ []))))

theorem compactText_eq_append (c : DateTime) :
    c.compactText = yearForm c.date.year ++ c.fieldsText := by
  simp [compactText, fieldsText]

theorem Valid.length_fieldsText (h : c.Valid) : c.fieldsText.length = 10 := by
  obtain ⟨month, day⟩ := h.1.fits
  obtain ⟨hour, minute, second, -⟩ := h.2.fits
  simp [fieldsText, month.length_padded, day.length_padded, hour.length_padded,
    minute.length_padded, second.length_padded]

theorem Valid.fieldsText_inj (hc : c.Valid) (hd : d.Valid) (year : c.date.year = d.date.year)
    (same : c.fieldsText = d.fieldsText) : c.atSecond = d.atSecond := by
  obtain ⟨month, day⟩ := hc.1.fits
  obtain ⟨month', day'⟩ := hd.1.fits
  obtain ⟨hour, minute, second, -⟩ := hc.2.fits
  obtain ⟨hour', minute', second', -⟩ := hd.2.fits
  rw [fieldsText, fieldsText, month.padded_append_inj month' (by decide),
    day.padded_append_inj day' (by decide), hour.padded_append_inj hour' (by decide),
    minute.padded_append_inj minute' (by decide),
    second.padded_append_inj second' (by decide)] at same
  obtain ⟨sameMonth, sameDay, sameHour, sameMinute, sameSecond, -⟩ := same
  obtain ⟨⟨_, _, _⟩, _, _, _, _⟩ := c
  obtain ⟨⟨_, _, _⟩, _, _, _, _⟩ := d
  simp only [DateTime.atSecond, mk.injEq, Date.mk.injEq, TimeOfDay.mk.injEq]
  exact ⟨⟨year, sameMonth, sameDay⟩, sameHour, sameMinute, sameSecond, trivial⟩

/-- Without separators the fields below the year still fill the last ten places, so that the year is
what stands before them, however long it is. -/
theorem Valid.compactText_eq_iff (hc : c.Valid) (hd : d.Valid) :
    c.compactText = d.compactText ↔ c.atSecond = d.atSecond := by
  constructor
  · intro same
    rw [compactText_eq_append, compactText_eq_append] at same
    have lengths := hc.length_fieldsText.trans hd.length_fieldsText.symm
    obtain ⟨year, fields⟩ := List.append_inj' same lengths
    exact hc.fieldsText_inj hd (yearForm_injective year) fields
  · intro same
    change c.atSecond.compactText = d.atSecond.compactText
    rw [same]

theorem Valid.atSecond_eq_iff (hc : c.Valid) (hd : d.Valid) :
    c.atSecond = d.atSecond ↔ c.wallSecond = d.wallSecond := by
  have start := hc.epochMillis_atSecond
  have start' := hd.epochMillis_atSecond
  constructor
  · intro same
    rw [same] at start
    omega
  · intro same
    rw [← same, ← start] at start'
    exact (hd.atSecond.eq_of_epochMillis hc.atSecond start').symm

end DateTime

namespace WrittenInstant

/-- A date and time of UTC in its own text, down to the second. -/
def ofSeconds (c : DateTime) (h : c.Valid) : WrittenInstant where
  dateTime := ⟨.ofDate c.date h.1, true,
    .seconds (.two c.time.hour.toNat h.2.fits.1.toNat_lt)
      (.two c.time.minute.toNat h.2.fits.2.1.toNat_lt)
      (.two c.time.second.toNat h.2.fits.2.2.1.toNat_lt)⟩
  offset := .utc true

variable {c : DateTime} (h : c.Valid)

theorem chars_ofSeconds : (ofSeconds c h).chars = c.secondsText ++ ['Z'] := by
  have date : (ofSeconds c h).dateTime.date.chars = c.date.text := WrittenDate.chars_ofDate h.1
  rw [chars, WrittenDateTime.chars, date]
  simp [ofSeconds, DateTime.secondsText, TimeOfDay.secondsText, WrittenDateTime.mark,
    WrittenTime.chars, WrittenOffset.chars, Digits.two]

theorem value_ofSeconds : (ofSeconds c h).dateTime.value = c.atSecond := by
  have date : (ofSeconds c h).dateTime.date.value = c.date := WrittenDate.value_ofDate h.1
  rw [WrittenDateTime.value, date]
  obtain ⟨-, hour, minute, second, -⟩ := h
  simp [ofSeconds, DateTime.atSecond, WrittenTime.value, Digits.value_two]
  omega

theorem evaluate_secondsText {c : DateTime} (h : c.Valid) (zone : Zone) (now : Instant) :
    evaluate (some (.ofChars (c.secondsText ++ ['Z']))) zone now
      = if -9999 ≤ c.date.year ∧ c.date.year ≤ 9999 then .ok (.ofEpochSecond c.wallSecond)
        else .error (.wideYear (.ofChars (c.secondsText ++ ['Z']))) := by
  have wide : (ofSeconds c h).Wide ↔ ¬ (-9999 ≤ c.date.year ∧ c.date.year ≤ 9999) := by
    refine (WrittenYear.wide_ofYear c.date.year).trans ?_
    omega
  have sound : (ofSeconds c h).dateTime.value.fault? = none := by
    rw [value_ofSeconds, DateTime.fault?_eq_none_iff]
    exact h.atSecond
  have start : c.atSecond.instant 0 = .ofEpochSecond c.wallSecond :=
    congrArg Instant.mk h.epochMillis_atSecond
  have written := (ofSeconds c h).evaluate_text zone now
  rw [text, chars_ofSeconds] at written
  rw [written, answer, text, chars_ofSeconds]
  by_cases within : -9999 ≤ c.date.year ∧ c.date.year ≤ 9999
  · rw [if_neg fun outside => wide.mp outside within, if_pos within, sound, value_ofSeconds]
    exact congrArg Except.ok start
  · rw [if_pos (wide.mpr within), if_neg within]

end WrittenInstant

namespace Instant

theorem wallSecond_utc (t : Instant) : (t.dateTime 0).wallSecond = t.epochSecond := by
  rw [DateTime.wallSecond_dateTime, Int.add_zero]

theorem compactForm_eq_iff (t u : Instant) :
    t.compactForm = u.compactForm ↔ t.epochSecond = u.epochSecond := by
  have valid := t.valid_dateTime 0
  have valid' := u.valid_dateTime 0
  rw [← wallSecond_utc, ← wallSecond_utc, ← valid.atSecond_eq_iff valid']
  exact valid.compactText_eq_iff valid'

theorem isoSecondsForm_eq_iff (t u : Instant) :
    t.isoSecondsForm = u.isoSecondsForm ↔ t.epochSecond = u.epochSecond := by
  constructor
  · intro same
    have compact := congrArg withoutSeparators same
    rw [isoSecondsForm, isoSecondsForm, DateTime.withoutSeparators_secondsText,
      DateTime.withoutSeparators_secondsText] at compact
    exact (t.compactForm_eq_iff u).mp compact
  · intro same
    rw [← wallSecond_utc, ← wallSecond_utc,
      ← (t.valid_dateTime 0).atSecond_eq_iff (u.valid_dateTime 0)] at same
    change (t.dateTime 0).atSecond.secondsText ++ _ = (u.dateTime 0).atSecond.secondsText ++ _
    rw [same]

theorem year_eq_of_epochSecond {t u : Instant} (same : t.epochSecond = u.epochSecond) :
    (t.dateTime 0).date.year = (u.dateTime 0).date.year := by
  rw [← wallSecond_utc, ← wallSecond_utc,
    ← (t.valid_dateTime 0).atSecond_eq_iff (u.valid_dateTime 0)] at same
  exact congrArg (·.date.year) same

/-- An instant is written as one of the same second is, if its year is not too long. -/
theorem written_eq_iff {t u : Instant} {form : Instant → List Char}
    (short : ¬ TooLong (t.dateTime 0).date.year)
    (forms : form t = form u ↔ t.epochSecond = u.epochSecond) :
    u.written form = .ok (form t) ↔ t.epochSecond = u.epochSecond := by
  rw [written_eq_ok_iff, eq_comm (a := form u), forms]
  refine and_iff_right_of_imp fun same => ?_
  rw [← year_eq_of_epochSecond same]
  exact short

/-- The short texts of an instant are its ISO text without the fraction, and that without the
separators. None of the three is written for a year of too many digits. Either short text is the same
for two instants exactly if they lie in the same second, which is counted towards the past before
1970 too. The former names the start of that second in every zone and at every time, as long as its
year has at most four digits. -/
theorem short_texts_agree (t u : Instant) (zone : Zone) (now : Instant) :
    (t.epochSecond * 1000 ≤ t.epochMillis ∧ t.epochMillis < (t.epochSecond + 1) * 1000)
      ∧ if TooLong (t.dateTime 0).date.year then
          t.isoText = .error .longYear ∧ t.isoSecondsText = .error .longYear
            ∧ t.compactText = .error .longYear
        else
          ∃ iso seconds compact, t.isoText = .ok iso ∧ t.isoSecondsText = .ok seconds
            ∧ t.compactText = .ok compact
            ∧ seconds = withoutFraction iso ∧ compact = withoutSeparators seconds
            ∧ (u.isoSecondsText = .ok seconds ↔ t.epochSecond = u.epochSecond)
            ∧ (u.compactText = .ok compact ↔ t.epochSecond = u.epochSecond)
            ∧ evaluate (some (.ofChars seconds)) zone now
              = if -9999 ≤ (t.dateTime 0).date.year ∧ (t.dateTime 0).date.year ≤ 9999 then
                  .ok ⟨t.epochSecond * 1000⟩
                else .error (.wideYear (.ofChars seconds)) := by
  constructor
  · unfold epochSecond millisPerSecond
    omega
  · split
    next long => exact ⟨written_of_tooLong long, written_of_tooLong long, written_of_tooLong long⟩
    next short =>
      refine ⟨_, _, _, written_of_short short, written_of_short short, written_of_short short,
        (DateTime.withoutFraction_millisText _).symm,
        (DateTime.withoutSeparators_secondsText _).symm,
        written_eq_iff short (t.isoSecondsForm_eq_iff u),
        written_eq_iff short (t.compactForm_eq_iff u), ?_⟩
      have named := WrittenInstant.evaluate_secondsText (t.valid_dateTime 0) zone now
      rw [wallSecond_utc] at named
      exact named

/-- The start of a year of 4302 digits has none of the three texts that the others could be made
of. -/
theorem short_texts_farAway :
    isoText farAway = .error .longYear ∧ isoSecondsText farAway = .error .longYear
      ∧ compactText farAway = .error .longYear
      ∧ ¬ ∃ iso seconds, isoText farAway = .ok iso ∧ isoSecondsText farAway = .ok seconds
        ∧ seconds = withoutFraction iso := by
  have unwritten : isoText farAway = .error .longYear := written_of_tooLong tooLong_farAway
  refine ⟨unwritten, written_of_tooLong tooLong_farAway, written_of_tooLong tooLong_farAway, ?_⟩
  rintro ⟨iso, seconds, written, -⟩
  rw [unwritten] at written
  cases written

example : isoSecondsText ⟨-1⟩ = .ok "1969-12-31T23:59:59Z".toList ∧ epochSecond ⟨-1⟩ = -1 := by
  decide +kernel

end Instant

end Almanac
