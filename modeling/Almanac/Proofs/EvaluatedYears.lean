import Almanac.Proofs.Digits
import Almanac.Proofs.ExpressionReading
import Almanac.Proofs.ValidSteps
import Almanac.Proofs.YearRange

namespace Almanac

/-- A date whose year has at most four digits. -/
def Date.Short (d : Date) : Prop :=
  -9999 ≤ d.year ∧ d.year ≤ 9999

instance (d : Date) : Decidable d.Short :=
  inferInstanceAs (Decidable (_ ∧ _))

theorem DateTime.short_of_withinYears {c d : DateTime} (h : c.withinYears = .ok d) :
    c.date.Short ∧ d = c := by
  unfold withinYears at h
  split at h
  next within => exact ⟨within, (Except.ok.inj h).symm⟩
  · split at h <;> cases h

theorem digitsValue_lt_of_length {digits : List Char} (h : digits.length = 4) :
    digitsValue digits < 10000 := by
  have := digitsValue_lt digits
  rw [h] at this
  exact this

theorem short_of_dateHead? {text rest : List Char} {date : Date}
    (read : dateHead? text = some (false, date, rest)) : date.Short := by
  unfold dateHead? at read
  split at read
  next negative body _ =>
    dsimp only at read
    split at read
    · cases read
    next long =>
      split at read
      next monthOn _ =>
        split at read
        next month dayOn _ =>
          obtain ⟨⟨day, left⟩, -, same⟩ := Option.map_eq_some_iff.mp read
          simp only [Prod.mk.injEq, decide_eq_false_iff_not] at same
          obtain ⟨wide, rfl, -⟩ := same
          have value := @digitsValue_lt_of_length (body.takeWhile isDecimalDigit) (by omega)
          unfold Date.Short
          dsimp only
          split <;> omega
        · cases read
      · cases read

namespace Literal

/-- What is known of the year of a literal. -/
def Short : Literal → Prop
  | instant c _ | dateTime c => c.date.Short
  | timeOfDay _ | wideYear => True

theorem short_of_dated? {text : List Char} {l : Literal} (read : dated? text = some l) :
    l.Short := by
  unfold dated? at read
  split at read
  · cases read
  next wide date date_eq =>
    cases wide with
    | true =>
      cases read
      exact trivial
    | false =>
      cases read
      exact short_of_dateHead? date_eq
  next wide date mark left date_eq =>
    have short : wide = false → date.Short := by
      rintro rfl
      exact short_of_dateHead? date_eq
    split at read
    · split at read
      · cases read
      · cases wide
        · cases read
          exact short rfl
        · cases read
          exact trivial
      · obtain ⟨offset, -, same⟩ := Option.map_eq_some_iff.mp read
        cases wide
        · cases same
          exact short rfl
        · cases same
          exact trivial
    · cases read

theorem short_of_yearly? {text : List Char} {l : Literal} (read : yearly? text = some l) :
    l.Short := by
  unfold yearly? at read
  split at read
  · cases read
  next year month _ =>
    split at read
    · cases read
    · split at read
      · cases read
        exact trivial
      · cases read
        have value := @digitsValue_lt_of_length year (by omega)
        change Date.Short ⟨digitsValue year, _, 1⟩
        unfold Date.Short
        dsimp only
        omega

theorem short_of_read? {text : List Char} {l : Literal} (read : read? text = some l) :
    l.Short := by
  unfold read? at read
  rcases Option.or_eq_some_iff.mp read with dated | ⟨-, other⟩
  · exact short_of_dated? dated
  · rcases Option.or_eq_some_iff.mp other with timed | ⟨-, yearly⟩
    · unfold timed? at timed
      split at timed
      · cases timed
        exact trivial
      · cases timed
    · exact short_of_yearly? yearly

end Literal

/-- A time of day by itself. -/
def Expression.IsTime : Expression → Prop
  | literal _ (.timeOfDay _) => True
  | _ => False

/-- The offsets of the clocks on which an expression is read: the one that a literal is written
with, or one that the clocks of the zone have at some instant. -/
def Expression.ReadOn (e : Expression) (zone : Zone) (offset : Int) : Prop :=
  match e with
  | literal _ (.instant _ fields) => fields.total? = some offset
  | _ => ∃ i, zone.offsetAt i = offset

namespace Zone

variable {z : Zone}

theorem offsetAt_ofEpochSecond {rules : ZoneRules} (clock : z.clock = .ruled rules) {second : Int}
    (low : -62135510400 ≤ second) (high : second ≤ 253402128000) :
    z.offsetAt (.ofEpochSecond second) = rules.offsetAt second := by
  have start : (Instant.ofEpochSecond second).epochSecond = second := by
    unfold Instant.ofEpochSecond Instant.epochSecond millisPerSecond
    dsimp only
    omega
  have lookup := (Instant.ofEpochSecond second).epochSecond_lookup
  rw [start] at lookup
  unfold offsetAt
  rw [clock]
  dsimp only
  rw [lookup]
  congr 1
  omega

/-- An instant is found by a clock whose offset the zone's clocks have at some instant. -/
theorem Ordinary.exists_offset (h : z.Ordinary) {c : DateTime} (valid : c.Valid)
    (preferred? : Option Int) :
    ∃ offset, z.instant c preferred? = c.instant offset ∧ ∃ i, z.offsetAt i = offset := by
  rcases h with ⟨offset, clock, -⟩ | ⟨rules, clock, regular⟩
  · refine ⟨offset, ?_, .epoch, ?_⟩
    · simp [instant, clock]
    · simp [offsetAt, clock]
  · obtain ⟨second, found, low, high⟩ := instant_eq_offsetAt clock regular c preferred?
    obtain ⟨first, last⟩ := c.lookup_year_range
    have after := mt (valid.lookup.wallSecond_lt_newYearSecond_iff 2).mp (by omega)
    have before := (valid.lookup.wallSecond_lt_newYearSecond_iff 9999).mpr (by omega)
    obtain ⟨y2, -, -, -, -, y9999⟩ := newYearSecond_values
    exact ⟨_, found, .ofEpochSecond second, offsetAt_ofEpochSecond clock (by omega) (by omega)⟩

end Zone

section

variable {zone : Zone} {now i : Instant}

theorem Zone.Ordinary.short_of_land (h : zone.Ordinary) {c : DateTime} (valid : c.Valid)
    {start : Int} (landed : zone.land c start = .ok i) :
    ∃ offset, (∃ j, zone.offsetAt j = offset) ∧ (i.dateTime offset).date.Short := by
  unfold land at landed
  cases within : c.withinYears with
  | error failure =>
    rw [within] at landed
    cases landed
  | ok d =>
    rw [within] at landed
    cases landed
    obtain ⟨short, rfl⟩ := DateTime.short_of_withinYears within
    obtain ⟨offset, found, used⟩ := h.exists_offset valid (some start)
    refine ⟨offset, used, ?_⟩
    rw [found, Instant.dateTime_instant valid]
    exact short

theorem Zone.Ordinary.year_of_land (h : zone.Ordinary) {c : DateTime} (valid : c.Valid)
    {start : Int} (landed : zone.land c start = .ok i) :
    (zone.dateTime i).date.year.natAbs ≤ 6010000 := by
  obtain ⟨offset, ⟨j, rfl⟩, low, high⟩ := h.short_of_land valid landed
  have near := i.year_near (h.offsetAt_lt j) (h.offsetAt_lt i)
  unfold dateTime
  omega

theorem Expression.ReadOn.natAbs_lt {e : Expression} {offset : Int} (h : e.ReadOn zone offset)
    (ordinary : zone.Ordinary) : offset.natAbs < 86400000000000 := by
  unfold ReadOn at h
  split at h
  · have range := OffsetFields.total?_range h
    omega
  · obtain ⟨j, rfl⟩ := h
    exact ordinary.offsetAt_lt j

/-- The year of the instant that an expression names is checked on the clock on which the expression
is read. Only a time of day is not checked: its date is the present one. -/
theorem Expression.short_of_toInstant {e : Expression} (ordinary : zone.Ordinary)
    (short : ∀ text l, e = .literal text l → l.Short) (h : e.toInstant zone now = .ok i) :
    ∃ offset, e.ReadOn zone offset ∧ (¬ e.IsTime → (i.dateTime offset).date.Short)
      ∧ (e.IsTime → (i.dateTime offset).date = (zone.dateTime now).date) := by
  have present : (zone.dateTime now).Valid := now.valid_dateTime _
  cases e with
  | literal text l =>
    have fields : l.Short := short text l rfl
    unfold toInstant Literal.toInstant at h
    cases l with
    | instant c written =>
      dsimp only at h
      split at h
      · cases h
      next d passed =>
        obtain ⟨valid, rfl⟩ := DateTime.valid_of_checked passed
        split at h
        · cases h
        next seconds total =>
          cases h
          refine ⟨seconds, total, fun _ => ?_, False.elim⟩
          rw [Instant.dateTime_instant valid]
          exact fields
    | dateTime c =>
      dsimp only at h
      split at h
      · cases h
      next d passed =>
        obtain ⟨valid, rfl⟩ := DateTime.valid_of_checked passed
        cases h
        obtain ⟨offset, found, used⟩ := ordinary.exists_offset valid none
        refine ⟨offset, used, fun _ => ?_, False.elim⟩
        rw [found, Instant.dateTime_instant valid]
        exact fields
    | timeOfDay time =>
      dsimp only at h
      split at h
      · cases h
      next d passed =>
        obtain ⟨valid, rfl⟩ := DateTime.valid_of_checked passed
        cases h
        obtain ⟨offset, found, used⟩ := ordinary.exists_offset valid none
        refine ⟨offset, used, fun other => absurd trivial other, fun _ => ?_⟩
        rw [found, Instant.dateTime_instant valid]
    | wideYear => cases h
  | anchor a =>
    obtain ⟨offset, used, within⟩ := ordinary.short_of_land (a.valid_resolve present zone) h
    exact ⟨offset, used, fun _ => within, False.elim⟩
  | fromNow d =>
    obtain ⟨offset, used, within⟩ := ordinary.short_of_land (present.plus d.amount d.unit) h
    exact ⟨offset, used, fun _ => within, False.elim⟩
  | sum base d =>
    unfold toInstant at h
    split at h
    · cases h
    next b _ =>
      have valid : (zone.dateTime b).Valid := b.valid_dateTime _
      obtain ⟨offset, used, within⟩ := ordinary.short_of_land (valid.plus d.amount d.unit) h
      exact ⟨offset, used, fun _ => within, False.elim⟩

/-- The year of an instant that is named lies near that of the present or is short. -/
theorem Expression.year_of_toInstant {e : Expression} (ordinary : zone.Ordinary)
    (short : ∀ text l, e = .literal text l → l.Short) (h : e.toInstant zone now = .ok i) :
    (zone.dateTime i).date.year.natAbs ≤ (zone.dateTime now).date.year.natAbs + 10000000 := by
  obtain ⟨offset, on, window, today⟩ := e.short_of_toInstant ordinary short h
  have near := i.year_near (on.natAbs_lt ordinary) (ordinary.offsetAt_lt i)
  change (zone.dateTime i).date.year.natAbs ≤ _ at near
  by_cases time : e.IsTime
  · rw [today time] at near
    omega
  · obtain ⟨low, high⟩ := window time
    omega

theorem year_of_evaluate {text : Text} (ordinary : zone.Ordinary)
    (h : evaluate (some text) zone now = .ok i) :
    (zone.dateTime i).date.year.natAbs ≤ (zone.dateTime now).date.year.natAbs + 10000000 := by
  obtain ⟨-, e, read, named⟩ := evaluate_ok_iff.mp h
  refine Expression.year_of_toInstant ordinary (fun text' l same => ?_) named
  rw [same] at read
  exact Literal.short_of_read? (Expression.literal_of_read read)

end

end Almanac
