import Almanac.Proofs.CheckedEvaluation
import Almanac.Proofs.LongRuns

namespace Almanac

namespace Zone

variable {z : Zone} {c : DateTime}

theorem Ordinary.year_dateTime (h : z.Ordinary) (i : Instant) :
    (z.dateTime i).date.year.natAbs ≤ (i.dateTime 0).date.year.natAbs + 6000001 :=
  i.year_near (by decide) (h.offsetAt_lt i)

theorem told_land (few : c.date.year.natAbs < smallestLong * 10) (offset : Int) :
    Told (fun _ => True) (z.land c offset) := by
  unfold land DateTime.withinYears
  by_cases within : -9999 ≤ c.date.year ∧ c.date.year ≤ 9999
  · rw [if_pos within]
    exact trivial
  · have short : ¬ TooLong c.date.year := fun long =>
      Nat.not_le.mpr few (tooLong_iff.mp long)
    rw [if_neg within, if_neg short]
    exact rfl

theorem told_resolve {id : Text} : Told Ordinary (resolve id) := by
  cases found : resolve id with
  | ok zone => exact ordinary_of_resolve found
  | error failure =>
    rcases failure_of_resolve found with rfl | ⟨name, rfl⟩
    · exact rfl
    · exact rfl

end Zone

variable {zone : Zone} {now : Instant}

theorem Date.Valid.year_plusDays {d : Date} (h : d.Valid) {days : Int} (low : -7 ≤ days)
    (high : days ≤ 7) : d.year - 2 ≤ (d.plusDays days).year ∧ (d.plusDays days).year ≤ d.year + 2 := by
  have valid := d.valid_plusDays days
  have day := d.epochDay_plusDays days
  have up := h.year_le valid (n := 1) (by omega) (by omega)
  have down := valid.year_le h (n := 1) (by omega) (by omega)
  omega

theorem Date.Valid.year_previous {d : Date} (h : d.Valid) (w : Weekday) :
    d.year - 2 ≤ (d.previous w).year ∧ (d.previous w).year ≤ d.year + 2 := by
  unfold Date.previous
  apply h.year_plusDays
  · split <;> omega
  · split <;> omega

theorem Date.Valid.year_next {d : Date} (h : d.Valid) (w : Weekday) :
    d.year - 2 ≤ (d.next w).year ∧ (d.next w).year ≤ d.year + 2 := by
  unfold Date.next
  apply h.year_plusDays
  · split <;> omega
  · split <;> omega

theorem DateTime.Valid.year_plus_few {c : DateTime} (h : c.Valid) {amount : Int}
    (low : -2 ≤ amount) (high : amount ≤ 2) (unit : TimeUnit) :
    c.date.year - 3 ≤ (c.plus amount unit).date.year
      ∧ (c.plus amount unit).date.year ≤ c.date.year + 3 := by
  have near := h.year_plus (n := 2) low high unit
  omega

/-- An anchor lies in a year near the present, or it names an end of time. -/
theorem Anchor.resolve_cases (a : Anchor) {present : DateTime} (h : present.Valid) (zone : Zone) :
    (present.date.year - 3 ≤ (a.resolve present zone).date.year
        ∧ (a.resolve present zone).date.year ≤ present.date.year + 3)
      ∨ ∃ i, (i = .startOfYearZero ∨ i = .lastDayOfYear9999)
        ∧ ∀ present zone, a.resolve present zone = zone.dateTime i := by
  have day : present.startOfDay.Valid := h.startOfDay
  have month := day.firstOfMonth
  have near {year : Int} (few : present.date.year - 2 ≤ year ∧ year ≤ present.date.year + 2) :
      present.date.year - 3 ≤ year ∧ year ≤ present.date.year + 3 := by
    omega
  cases a
  case min | distantPast => exact .inr ⟨_, .inl rfl, fun _ _ => rfl⟩
  case max | distantFuture => exact .inr ⟨_, .inr rfl, fun _ _ => rfl⟩
  all_goals left
  case now | morning | midnight | noon | today | beginningMonth | beginningYear =>
    exact near ⟨Int.sub_le_self _ (by decide), Int.le_add_of_nonneg_right (by decide)⟩
  case tomorrow | yesterday | dayAfterTomorrow | dayBeforeYesterday =>
    exact day.year_plus_few (by decide) (by decide) .day
  case nextMonth | lastMonth => exact h.year_plus_few (by decide) (by decide) .month
  case nextYear | lastYear => exact h.year_plus_few (by decide) (by decide) .year
  case endMonth => exact month.year_plus_few (show -2 ≤ (1 : Int) by decide) (by decide) .month
  case endYear =>
    change present.date.year - 3 ≤ present.date.year + 1
      ∧ present.date.year + 1 ≤ present.date.year + 3
    omega
  case beginningWeek => exact near (h.1.year_previous .sunday)
  case endWeek => exact near (h.1.year_next .sunday)

theorem Anchor.year_resolve (a : Anchor) {present : DateTime} (h : present.Valid)
    (ordinary : zone.Ordinary) :
    (a.resolve present zone).date.year.natAbs ≤ present.date.year.natAbs + 7000000 := by
  rcases a.resolve_cases h zone with near | ⟨i, named, resolved⟩
  · omega
  · have zero : (Instant.startOfYearZero.dateTime 0).date.year = 0 := by decide
    have last : (Instant.lastDayOfYear9999.dateTime 0).date.year = 9999 := by decide
    have shown := ordinary.year_dateTime i
    rw [resolved]
    rcases named with rfl | rfl <;> omega

theorem Literal.told_toInstant (l : Literal) (text : Text) :
    Told (fun _ => True) (l.toInstant text zone now) := by
  unfold toInstant
  cases l with
  | instant c offset =>
    dsimp only
    cases c.checked with
    | error fault => exact rfl
    | ok d =>
      dsimp only
      cases offset.total? with
      | none => exact rfl
      | some seconds => exact trivial
  | dateTime c =>
    dsimp only
    cases c.checked with
    | error fault => exact rfl
    | ok d => exact trivial
  | timeOfDay time =>
    dsimp only
    cases (zone.dateTime now).atTime time with
    | error fault => exact rfl
    | ok d => exact trivial
  | wideYear => exact rfl

theorem Duration.FewDigits.year_addTo {d : Duration} (h : d.FewDigits) {c : DateTime}
    (valid : c.Valid) (few : c.date.year.natAbs < smallestLong + 20000000) :
    (d.addTo c).date.year.natAbs < smallestLong * 10 := by
  have large := le_smallestLong
  have near := valid.year_plus (show -(d.amount.natAbs : Int) ≤ d.amount by omega)
    (show d.amount ≤ d.amount.natAbs by omega) d.unit
  unfold FewDigits at h
  unfold addTo
  omega

/-- No step of an expression with few digits comes to a year that is too long to be told. -/
theorem Expression.told_toInstant {e : Expression} (h : e.FewDigits) (ordinary : zone.Ordinary)
    (few : (zone.dateTime now).date.year.natAbs < smallestLong + 10000000) :
    Told (fun _ => True) (e.toInstant zone now) := by
  have present : (zone.dateTime now).Valid := now.valid_dateTime _
  induction e with
  | literal text l => exact l.told_toInstant text
  | anchor a =>
    have year := a.year_resolve present ordinary
    have large := le_smallestLong
    apply Zone.told_land
    omega
  | fromNow d =>
    have amount : d.FewDigits := h
    have near : (zone.dateTime now).date.year.natAbs < smallestLong + 20000000 :=
      Nat.lt_of_lt_of_le few (Nat.add_le_add_left (by decide) _)
    exact Zone.told_land (amount.year_addTo present near) _
  | sum base d ih =>
    obtain ⟨digits, amount⟩ : base.FewDigits ∧ d.FewDigits := h
    have start := ih digits
    unfold toInstant
    cases value : base.toInstant zone now with
    | error failure =>
      rw [value] at start
      exact start
    | ok i =>
      have valid : (zone.dateTime i).Valid := i.valid_dateTime _
      have short : ∀ text l, base = .literal text l → l.Short := by
        rintro text l rfl
        exact digits
      have year := Expression.year_of_toInstant ordinary short value
      have near : (zone.dateTime i).date.year.natAbs < smallestLong + 20000000 := by omega
      exact Zone.told_land (amount.year_addTo valid near) _

theorem told_evaluate {text? : Option Text} (ordinary : zone.Ordinary)
    (few : (zone.dateTime now).date.year.natAbs < smallestLong + 10000000)
    (short : ∀ text, text? = some text → ¬ HasLongRun text.chars) :
    Told (fun _ => True) (evaluate text? zone now) := by
  cases text? with
  | none => exact rfl
  | some text =>
    by_cases blank : trimSymbols text.symbols = []
    · simp only [evaluate, blank]
      exact rfl
    · have body : ¬ HasLongRun ((trimSymbols text.symbols).map Symbol.reading) := by
        intro long
        apply short text rfl
        exact long.of_isInfix ((trimSymbols_isInfix text.symbols).map Symbol.reading)
      rw [evaluate_some blank]
      exact (Expression.told_read body).bind fun e digits =>
        Expression.told_toInstant digits ordinary few

/-- The instant that a text names in the zone of an id. -/
def evaluateIn (text? : Option Text) (id : Text) (now : Instant) : Except Failure Instant :=
  (Zone.resolve id).bind (evaluate text? · now)

/-- Whether a text names an instant in the zone of an id, if there is such a zone. -/
def isValidIn (text? : Option Text) (id : Text) (now : Instant) : Except Failure Bool :=
  match Zone.resolve id with
  | .error _ => .ok false
  | .ok zone => isValid text? zone now

/-- The instant that a text names in the zone of an id, found with every date and time checked. -/
def checkedEvaluateIn (text? : Option Text) (id : Text) (now : Instant) : Except Halt Instant :=
  match Zone.resolve id with
  | .error failure => .error (.failure failure)
  | .ok zone => checkedEvaluate text? zone now

theorem Failure.kind_or_long (f : Failure) :
    (∃ kind ∈ [Category.expression, .duration, .unit, .range, .zone], f.category? = some kind)
      ∨ f = .longYear ∨ ∃ digits, f = .longNumeral digits := by
  cases f with
  | longYear => exact .inr (.inl rfl)
  | longNumeral digits => exact .inr (.inr ⟨digits, rfl⟩)
  | _ => exact .inl ⟨_, by simp, rfl⟩

variable {text? : Option Text} {id : Text}

theorem checkedEvaluateIn_eq :
    checkedEvaluateIn text? id now = (evaluateIn text? id now).mapError .failure := by
  unfold checkedEvaluateIn evaluateIn
  cases found : Zone.resolve id with
  | error failure => rfl
  | ok zone => exact checkedEvaluate_eq text? (Zone.ordinary_of_resolve found)

theorem told_evaluateIn (few : (now.dateTime 0).date.year.natAbs < smallestLong)
    (short : ∀ text, text? = some text → ¬ HasLongRun text.chars) :
    Told (fun _ => True) (evaluateIn text? id now) := by
  refine Zone.told_resolve.bind fun zone ordinary => ?_
  have year := ordinary.year_dateTime now
  exact told_evaluate ordinary (by omega) short

theorem isValidIn_eq (told : Told (fun _ => True) (evaluateIn text? id now)) :
    ∃ valid, isValidIn text? id now = .ok valid
      ∧ (valid = true ↔ ∃ i, evaluateIn text? id now = .ok i) := by
  unfold evaluateIn at told ⊢
  unfold isValidIn
  cases found : Zone.resolve id with
  | error failure => exact ⟨false, rfl, by simp [Except.bind]⟩
  | ok zone =>
    rw [found] at told
    dsimp only [Except.bind] at told ⊢
    unfold isValid
    cases value : evaluate text? zone now with
    | ok i => exact ⟨true, rfl, by simp⟩
    | error failure =>
      rw [value] at told
      have kind : failure.category?.isSome = true := told
      exact ⟨false, by simp only [if_pos kind], by simp⟩

/-- A text names an instant or is told why not, and no date and time that is made on the way has a
field out of range or is one that the tables of zones do not have. Only numbers of thousands of
digits, which then stand in the text, fail otherwise; without them there is an answer to whether a
text names an instant. -/
theorem evaluateIn_outcome (text? : Option Text) (id : Text) (now : Instant)
    (few : (now.dateTime 0).date.year.natAbs < smallestLong) :
    checkedEvaluateIn text? id now = (evaluateIn text? id now).mapError .failure
      ∧ (∀ failure, evaluateIn text? id now = .error failure →
        (∃ kind ∈ [Category.expression, .duration, .unit, .range, .zone],
            failure.category? = some kind)
          ∨ (failure = .longYear ∨ ∃ digits, failure = .longNumeral digits)
            ∧ ∃ text, text? = some text ∧ HasLongRun text.chars)
      ∧ ((∀ text, text? = some text → ¬ HasLongRun text.chars) →
        ∃ valid, isValidIn text? id now = .ok valid
          ∧ (valid = true ↔ ∃ i, evaluateIn text? id now = .ok i)) := by
  refine ⟨checkedEvaluateIn_eq, fun failure failed => ?_, fun short => ?_⟩
  · rcases failure.kind_or_long with kind | long
    · exact .inl kind
    · right
      refine ⟨long, ?_⟩
      by_contra none
      have told : Told (fun _ => True) (evaluateIn text? id now) :=
        told_evaluateIn few fun text same run => none ⟨text, same, run⟩
      rw [failed] at told
      rcases long with rfl | ⟨digits, rfl⟩ <;> cases told
  · exact isValidIn_eq (told_evaluateIn few short)

theorem evaluateIn_outcome_tomorrow :
    (Instant.dateTime ⟨1709221530250⟩ 0).date.year.natAbs < smallestLong
      ∧ checkedEvaluateIn (some (.ofChars "tomorrow".toList)) (.ofChars "Europe/Helsinki".toList)
          ⟨1709221530250⟩
        = (evaluateIn (some (.ofChars "tomorrow".toList)) (.ofChars "Europe/Helsinki".toList)
          ⟨1709221530250⟩).mapError .failure := by
  have present : (Instant.dateTime ⟨1709221530250⟩ 0).date.year.natAbs < 1000000000000 := by decide
  have few := Nat.lt_of_lt_of_le present le_smallestLong
  exact ⟨few, (evaluateIn_outcome _ _ _ few).1⟩

end Almanac
