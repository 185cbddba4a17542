import Almanac.Proofs.Chronology
import Almanac.Proofs.IsoReading

namespace Almanac

theorem compare_toNat (c d : Char) : compare c d = compare (c.toNat : Int) d.toNat := by
  change compareOfLessAndEq c d = compareOfLessAndEq (c.toNat : Int) d.toNat
  simp only [compareOfLessAndEq, Char.lt_def, UInt32.lt_iff_toNat_lt, Int.ofNat_lt, Int.ofNat_inj,
    ← Char.toNat_inj]
  rfl

/-- The first place at which two texts differ decides between them. -/
theorem compare_eq_lt_iff {xs ys : List Char} : compare xs ys = .lt ↔ xs < ys := by
  induction xs generalizing ys with
  | nil => cases ys <;> simp
  | cons x xs ih =>
    cases ys with
    | nil => simp
    | cons y ys =>
      have first : compare x y = .lt ↔ x < y := compareOfLessAndEq_eq_lt
      rw [List.compare_cons_cons, Ordering.then_eq_lt, first, Std.compare_eq_iff_eq, ih,
        List.cons_lt_cons_iff]

theorem compare_cons_self (mark : Char) (xs ys : List Char) :
    compare (mark :: xs) (mark :: ys) = compare xs ys := by
  rw [List.compare_cons_cons, Std.compare_eq_iff_eq.mpr rfl, Ordering.eq_then]

theorem compare_append {xs ys : List Char} (same : xs.length = ys.length) (xs' ys' : List Char) :
    compare (xs ++ xs') (ys ++ ys') = (compare xs ys).then (compare xs' ys') := by
  induction xs generalizing ys with
  | nil =>
    rw [List.length_eq_zero_iff.mp same.symm]
    rfl
  | cons x xs ih =>
    obtain ⟨y, ys, rfl⟩ := List.exists_cons_of_length_eq_add_one same.symm
    simp only [List.cons_append, List.compare_cons_cons, ih (Nat.succ.inj same), Ordering.then_assoc]

/-- Digits of one length are ordered as the numbers that they write. The induction is from the last
digit, which decides only between equal numbers of tens. -/
theorem compare_digits {xs ys : List Char} (hx : ∀ c ∈ xs, c.isDigit = true)
    (hy : ∀ c ∈ ys, c.isDigit = true) (same : xs.length = ys.length) :
    compare xs ys = compare (digitsValue xs : Int) (digitsValue ys) := by
  induction xs using List.reverseRecOn generalizing ys with
  | nil =>
    rw [List.length_eq_zero_iff.mp same.symm]
    rfl
  | append_singleton xs x ih =>
    obtain rfl | ⟨ys, y, rfl⟩ := List.eq_nil_or_concat ys
    · simp at same
    rw [List.concat_eq_append] at *
    rw [List.forall_mem_append, List.forall_mem_singleton] at hx hy
    have shorter : xs.length = ys.length := by simpa using same
    have tens := ih hx.1 hy.1 shorter
    have last : compare [x] [y] = compare (x.toNat : Int) y.toNat := by
      rw [List.compare_cons_cons, List.compare_nil_nil, Ordering.then_eq, compare_toNat]
    have range := isDigit_iff.mp hx.2
    have range' := isDigit_iff.mp hy.2
    rw [compare_append shorter, tens, last, digitsValue_concat, digitsValue_concat,
      digitValue?_of_isDigit hx.2, digitValue?_of_isDigit hy.2, Option.getD_some, Option.getD_some]
    symm
    refine compare_eq_then (fun _ => by omega) (fun _ => by omega) fun _ => ?_
    exact compare_eq_of_sub (by omega)

/-- Fields of one width are ordered as their numbers, and then as what comes after them. -/
theorem Fits.compare_padded {width : Nat} {a b : Int} (ha : Fits width a) (hb : Fits width b)
    (positive : 0 < width) (xs ys : List Char) :
    compare (padded width a.toNat ++ xs) (padded width b.toNat ++ ys)
      = (compare a b).then (compare xs ys) := by
  have same := (ha.length_padded positive).trans (hb.length_padded positive).symm
  have digits := compare_digits (fun _ => isDigit_of_mem_padded) (fun _ => isDigit_of_mem_padded) same
  rw [digitsValue_padded, digitsValue_padded, Int.toNat_of_nonneg ha.1,
    Int.toNat_of_nonneg hb.1] at digits
  rw [compare_append same, digits]

namespace Date

/-- The year stands as four digits in the text of the date. A sign would come before all digits. -/
def BareYear (d : Date) : Prop :=
  0 ≤ d.year ∧ d.year ≤ 9999

instance (d : Date) : Decidable d.BareYear :=
  inferInstanceAs (Decidable (_ ∧ _))

variable {a b : Date}

theorem BareYear.fits (h : a.BareYear) : Fits 4 a.year :=
  ⟨h.1, Int.lt_of_le_of_lt h.2 (by decide)⟩

theorem BareYear.yearForm_eq (h : a.BareYear) : yearForm a.year = padded 4 a.year.toNat := by
  obtain ⟨low, high⟩ := h
  rw [yearForm, if_neg (by omega), if_neg (by omega), show a.year.natAbs = a.year.toNat by omega]

theorem Valid.length_text (h : a.Valid) (year : a.BareYear) : a.text.length = 10 := by
  obtain ⟨month, day⟩ := h.fits
  rw [text, year.yearForm_eq]
  simp [year.fits.length_padded, month.length_padded, day.length_padded]

/-- Dates are written in their order. -/
theorem Valid.compare_text (ha : a.Valid) (hb : b.Valid) (year : a.BareYear) (year' : b.BareYear)
    (xs ys : List Char) :
    compare (a.text ++ xs) (b.text ++ ys) = (compare a b).then (compare xs ys) := by
  obtain ⟨month, day⟩ := ha.fits
  obtain ⟨month', day'⟩ := hb.fits
  rw [text, text, year.yearForm_eq, year'.yearForm_eq, Date.compare_eq]
  simp only [List.append_assoc, List.cons_append, Ordering.then_assoc]
  rw [year.fits.compare_padded year'.fits (by decide), compare_cons_self,
    month.compare_padded month' (by decide), compare_cons_self,
    day.compare_padded day' (by decide)]

end Date

namespace TimeOfDay

variable {t u : TimeOfDay}

theorem Valid.length_millisText (h : t.Valid) : t.millisText.length = 12 := by
  obtain ⟨hour, minute, second, milli⟩ := h.fits
  simp [millisText, secondsText, hour.length_padded, minute.length_padded, second.length_padded,
    milli.length_padded]

/-- Times of day are written in their order. -/
theorem Valid.compare_millisText (ht : t.Valid) (hu : u.Valid) (xs ys : List Char) :
    compare (t.millisText ++ xs) (u.millisText ++ ys) = (compare t u).then (compare xs ys) := by
  obtain ⟨hour, minute, second, milli⟩ := ht.fits
  obtain ⟨hour', minute', second', milli'⟩ := hu.fits
  rw [TimeOfDay.compare_eq]
  simp only [millisText, secondsText, List.append_assoc, List.cons_append, Ordering.then_assoc]
  rw [hour.compare_padded hour' (by decide), compare_cons_self,
    minute.compare_padded minute' (by decide), compare_cons_self,
    second.compare_padded second' (by decide), compare_cons_self,
    milli.compare_padded milli' (by decide)]

end TimeOfDay

namespace DateTime

variable {c d : DateTime}

/-- A date and time reads back from its text, whatever its year. -/
theorem Valid.eq_of_millisText (hc : c.Valid) (hd : d.Valid) {mark : Char}
    (stop : isDecimalDigit mark = false) {xs ys : List Char}
    (same : c.millisText ++ mark :: xs = d.millisText ++ mark :: ys) : c = d := by
  simp only [millisText, List.append_assoc, List.cons_append] at same
  have dates := congrArg dateHead? same
  rw [dateHead?_text hc.1, dateHead?_text hd.1] at dates
  obtain ⟨-, date, rest⟩ : _ ∧ c.date = d.date ∧ _ := by simpa using dates
  have times := congrArg timeHead? rest
  rw [timeHead?_millisText hc.2 stop, timeHead?_millisText hd.2 stop] at times
  obtain ⟨time, -⟩ : c.time = d.time ∧ _ := by simpa using times
  cases c
  cases d
  cases date
  cases time
  rfl

theorem Valid.compare_millisText (hc : c.Valid) (hd : d.Valid) (year : c.date.BareYear)
    (year' : d.date.BareYear) (rest : List Char) :
    compare (c.millisText ++ rest) (d.millisText ++ rest) = compare c d := by
  have ended : compare rest rest = .eq := Std.compare_eq_iff_eq.mpr rfl
  rw [DateTime.compare_eq]
  simp only [millisText, List.append_assoc, List.cons_append]
  rw [hc.1.compare_text hd.1 year year', compare_cons_self, hc.2.compare_millisText hd.2, ended,
    Ordering.then_eq]

end DateTime

namespace Instant

theorem isoForm_injective : Function.Injective isoForm := by
  intro t u same
  have stop : isDecimalDigit 'Z' = false := by decide
  have fields : t.dateTime 0 = u.dateTime 0 :=
    (t.valid_dateTime 0).eq_of_millisText (u.valid_dateTime 0) stop same
  rw [← t.instant_dateTime 0, fields, u.instant_dateTime]

variable {t u : Instant}

theorem isoText_of_bareYear (year : (t.dateTime 0).date.BareYear) : t.isoText = .ok t.isoForm :=
  written_of_short fun long => long.wide ⟨Int.le_trans (by decide) year.1, year.2⟩

theorem length_isoForm (year : (t.dateTime 0).date.BareYear) : t.isoForm.length = 24 := by
  obtain ⟨date, time⟩ := t.valid_dateTime 0
  simp [isoForm, DateTime.millisText, date.length_text year, time.length_millisText]

theorem isoForm_lt_iff (year : (t.dateTime 0).date.BareYear)
    (year' : (u.dateTime 0).date.BareYear) : t.isoForm < u.isoForm ↔ t < u := by
  have valid := t.valid_dateTime 0
  have valid' := u.valid_dateTime 0
  have order := valid.compare_epochMillis valid' 0
  rw [epochMillis_shown, epochMillis_shown] at order
  rw [← compare_eq_lt_iff, isoForm, isoForm, valid.compare_millisText valid' year year', ← order,
    Int.compare_eq_lt, lt_iff]

/-- An instant has an ISO text unless its year has too many digits, and no two instants have the same
one. In the years 0 to 9999 all ISO texts are of one length, and in the order of their characters
they come in the order of the instants. -/
theorem isoText_sorts :
    (∀ t : Instant, if TooLong (t.dateTime 0).date.year then t.isoText = .error .longYear
        else ∃ text, t.isoText = .ok text)
      ∧ (∀ t u : Instant, ∀ text, t.isoText = .ok text → u.isoText = .ok text → t = u)
      ∧ (∀ t : Instant, (t.dateTime 0).date.BareYear →
        ∃ text, t.isoText = .ok text ∧ text.length = 24)
      ∧ ∀ t u : Instant, (t.dateTime 0).date.BareYear → (u.dateTime 0).date.BareYear →
        ∃ text text', t.isoText = .ok text ∧ u.isoText = .ok text' ∧ (t < u ↔ text < text') := by
  refine ⟨fun t => ?_, fun t u text written written' => ?_, fun t year => ?_,
    fun t u year year' => ?_⟩
  · split
    next long => exact written_of_tooLong long
    next short => exact ⟨_, written_of_short short⟩
  · obtain ⟨-, form⟩ := written_eq_ok_iff.mp written
    obtain ⟨-, form'⟩ := written_eq_ok_iff.mp written'
    exact isoForm_injective (form.trans form'.symm)
  · exact ⟨_, isoText_of_bareYear year, length_isoForm year⟩
  · exact ⟨_, _, isoText_of_bareYear year, isoText_of_bareYear year',
      (isoForm_lt_iff year year').symm⟩

/-- The last millisecond before 1970 and the first of it differ in every field of their texts. -/
theorem isoText_sorts_over_new_year :
    isoText ⟨-1⟩ = .ok "1969-12-31T23:59:59.999Z".toList
      ∧ isoText epoch = .ok "1970-01-01T00:00:00.000Z".toList
      ∧ (∀ text, isoText ⟨-1⟩ = .ok text → isoText epoch ≠ .ok text)
      ∧ (∃ text, isoText ⟨-1⟩ = .ok text ∧ text.length = 24)
      ∧ ∃ text text', isoText ⟨-1⟩ = .ok text ∧ isoText epoch = .ok text' ∧ text < text' := by
  obtain ⟨-, injective, length, order⟩ := isoText_sorts
  have before : (dateTime ⟨-1⟩ 0).date.BareYear := by decide
  have after : (dateTime epoch 0).date.BareYear := by decide
  have earlier : (⟨-1⟩ : Instant) < epoch := lt_iff.mpr (by decide)
  have apart : (⟨-1⟩ : Instant) ≠ epoch := by decide
  obtain ⟨text, text', written, written', sorted⟩ := order _ _ before after
  refine ⟨(isoText_of_bareYear before).trans (by decide +kernel),
    (isoText_of_bareYear after).trans (by decide +kernel),
    fun text same same' => apart (injective _ _ text same same'), length _ before,
    text, text', written, written', sorted.mp earlier⟩

/-- Neither the start of a year of 4302 digits nor the millisecond after it has an ISO text. -/
theorem isoText_not_injective :
    isoText farAway = isoText (DateTime.instant ⟨.farAway, ⟨0, 0, 0, 1⟩⟩ 0)
      ∧ isoText farAway = .error .longYear
      ∧ ¬ Function.Injective isoText := by
  have valid : (⟨.farAway, ⟨0, 0, 0, 1⟩⟩ : DateTime).Valid := ⟨Date.valid_farAway, by decide⟩
  have shown := dateTime_instant valid 0
  have unwritten : isoText farAway = .error .longYear := written_of_tooLong tooLong_farAway
  have same : isoText farAway = isoText (DateTime.instant ⟨.farAway, ⟨0, 0, 0, 1⟩⟩ 0) := by
    rw [unwritten]
    refine (written_of_tooLong ?_).symm
    rw [shown]
    exact Date.tooLong_farAway
  refine ⟨same, unwritten, fun injective => ?_⟩
  have clocks := congrArg (fun i => (i.dateTime 0).time) (injective same)
  rw [shown, dateTime_farAway] at clocks
  cases clocks

end Instant

end Almanac
