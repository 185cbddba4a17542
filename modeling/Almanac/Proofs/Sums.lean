import Almanac.Proofs.EvaluatedYears
import Almanac.Proofs.LongYears
import Almanac.Proofs.SumReading

namespace Almanac

namespace Addend

/-- A step from an instant: the clock of the zone is moved, keeps its offset where it shows the time
it comes to twice, and has to stay in the years of at most four digits. A year that it may not come
to is told, unless it is too long. -/
def step (a : Addend) (zone : Zone) (i : Instant) : Except Failure Instant :=
  let c := (zone.dateTime i).plus a.amount a.unit
  if -9999 ≤ c.date.year ∧ c.date.year ≤ 9999 then .ok (zone.instant c (some (zone.offsetAt i)))
  else if TooLong c.date.year then .error .longYear
  else .error (.yearOutOfRange c.date.year)

variable {zone : Zone} {now i : Instant}

theorem land_eq_step (a : Addend) (zone : Zone) (i : Instant) : a.land zone i = a.step zone i := by
  obtain ⟨c, hc⟩ : ∃ c, (zone.dateTime i).plus a.amount a.unit = c := ⟨_, rfl⟩
  unfold land step Zone.land DateTime.withinYears
  rw [hc]
  by_cases within : -9999 ≤ c.date.year ∧ c.date.year ≤ 9999
  · simp only [if_pos within]
  · simp only [if_neg within]
    by_cases long : TooLong c.date.year
    · simp only [if_pos long]
    · simp only [if_neg long]

theorem step_of_tooLong {a : Addend}
    (long : TooLong ((zone.dateTime i).plus a.amount a.unit).date.year) :
    a.step zone i = .error .longYear := by
  unfold step
  rw [if_neg long.wide, if_pos long]

theorem natAbs_amount_lt (a : Addend) : a.amount.natAbs < smallestLong := by
  have value := digitsValue_lt a.digits
  have limit := @pow_le_smallestLong a.digits.length a.short
  have same : a.amount.natAbs = digitsValue a.digits := by
    unfold amount
    split <;> omega
  omega

/-- From a year with few digits a step does not come to one with too many. -/
theorem step_ne_longYear (a : Addend)
    (few : (zone.dateTime i).date.year.natAbs < smallestLong + 10000000) :
    a.step zone i ≠ .error .longYear := by
  have amount := a.natAbs_amount_lt
  have large := le_smallestLong
  have valid : (zone.dateTime i).Valid := Instant.valid_dateTime _ _
  have near := valid.year_plus (show -(a.amount.natAbs : Int) ≤ a.amount by omega)
    (show a.amount ≤ a.amount.natAbs by omega) a.unit
  have short : ¬ TooLong ((zone.dateTime i).plus a.amount a.unit).date.year := by
    rw [tooLong_iff]
    omega
  unfold step
  dsimp only
  rw [if_neg short]
  split <;> exact nofun

/-- What one step keeps, all of them do: each starts from a year with few digits. -/
theorem longYear_of_foldl (ordinary : zone.Ordinary) (addends : List Addend)
    {result : Except Failure Instant}
    (few : ∀ b, result = .ok b → (zone.dateTime b).date.year.natAbs < smallestLong + 10000000)
    (long : addends.foldl (fun result a => result.bind (a.step zone)) result = .error .longYear) :
    result = .error .longYear := by
  induction addends generalizing result with
  | nil => exact long
  | cons a addends ih =>
    cases result with
    | error failure => exact @ih (.error failure) nofun long
    | ok start =>
      have next : ∀ b, a.step zone start = .ok b →
          (zone.dateTime b).date.year.natAbs < smallestLong + 10000000 := by
        intro b stepped
        have valid : (zone.dateTime start).Valid := Instant.valid_dateTime _ _
        rw [← land_eq_step] at stepped
        have := ordinary.year_of_land (valid.plus a.amount a.unit) stepped
        omega
      exact absurd (ih next long) (a.step_ne_longYear (few start rfl))

end Addend

/-- The text of addends, one after the other. -/
def addendsText (addends : List Addend) : List Char :=
  addends.flatMap Addend.chars

theorem evaluate_foldl {text : Text} (h : trimSymbols text.symbols ≠ []) (addends : List Addend)
    (zone : Zone) (now : Instant) :
    evaluate (some (text.followedBy (addendsText addends))) zone now
      = addends.foldl (fun result a => result.bind (a.step zone)) (evaluate (some text) zone now) := by
  induction addends generalizing text with
  | nil =>
    have same : text.followedBy (addendsText []) = text := by
      simp [addendsText, Text.followedBy]
    rw [same]
    rfl
  | cons a addends ih =>
    have longer : trimSymbols (text.followedBy a.chars).symbols ≠ [] := by
      rw [a.chars_eq, a.unsigned.trimSymbols_followedBy _ _ h]
      exact List.append_ne_nil_of_left_ne_nil (dropWhile_ne_nil h) _
    have split : text.followedBy (addendsText (a :: addends))
        = (text.followedBy a.chars).followedBy (addendsText addends) :=
      text.followedBy_append a.chars (addendsText addends)
    have stepped : a.land zone = a.step zone := funext (a.land_eq_step zone)
    rw [split, ih longer, evaluate_addend h, stepped, List.foldl_cons]

/-- A text that is not blank and that addends follow is evaluated by taking their steps one after
the other from the instant of the text, up to the first failure. A step fails by the year it comes
to, which is out of range, or too long to be told of if the clock was set to a year of thousands of
digits. From any other clock no step comes to a year as long as that. -/
theorem evaluate_addends {text : Text} (h : trimSymbols text.symbols ≠ []) (addends : List Addend)
    (zone : Zone) (now : Instant) :
    evaluate (some (text.followedBy (addendsText addends))) zone now
        = addends.foldl (fun result a => result.bind (a.step zone)) (evaluate (some text) zone now)
      ∧ (zone.Available → (zone.dateTime now).date.year.natAbs < smallestLong →
        evaluate (some (text.followedBy (addendsText addends))) zone now = .error .longYear →
          evaluate (some text) zone now = .error .longYear)
      ∧ (∀ year, (Failure.yearOutOfRange year).category? = some .range)
      ∧ Failure.longYear.category? = none := by
  refine ⟨evaluate_foldl h addends zone now, fun available few long => ?_, fun _ => rfl, rfl⟩
  rw [evaluate_foldl h] at long
  refine Addend.longYear_of_foldl available.ordinary addends (fun b named => ?_) long
  have := year_of_evaluate available.ordinary named
  omega

theorem evaluate_addends_to_now :
    ∃ addends : List Addend, addendsText addends = " - 1d +2 h".toList
      ∧ trimSymbols (Text.ofChars "now".toList).symbols ≠ []
      ∧ Zone.utc.Available
      ∧ (Zone.utc.dateTime ⟨1709221530250⟩).date.year.natAbs < smallestLong
      ∧ evaluate (some ((Text.ofChars "now".toList).followedBy (addendsText addends))) .utc
        ⟨1709221530250⟩ = .ok ⟨1709142330250⟩ := by
  have text : trimSymbols (Text.ofChars "now".toList).symbols ≠ [] := by decide
  have present : (Zone.utc.dateTime ⟨1709221530250⟩).date.year.natAbs < 1000000000000 := by
    decide +kernel
  have few := Nat.lt_of_lt_of_le present le_smallestLong
  refine ⟨[⟨.space, true, .space, ['1'], .none, .day, .none, by simp, by simp, by decide⟩,
    ⟨.space, false, .none, ['2'], .space, .hour, .none, by simp, by simp, by decide⟩], rfl, text,
    .utc, few, ?_⟩
  rw [(evaluate_addends text _ _ _).1, evaluate_now (by decide +kernel) (by decide +kernel)]
  decide +kernel

/-- In a year of 4302 digits a time of day is read, but the day after it is in a year that is too
long to be told as out of range. -/
theorem evaluate_addend_farAway :
    ∃ addends : List Addend, addendsText addends = " + 1d".toList
      ∧ (∃ i, evaluate (some (.ofChars "10:00".toList)) .utc .farAway = .ok i)
      ∧ evaluate (some ((Text.ofChars "10:00".toList).followedBy (addendsText addends))) .utc
        .farAway = .error .longYear
      ∧ Failure.longYear.category? ≠ some .range := by
  have literal : Literal.read? ((trimSymbols (Text.ofChars "10:00".toList).symbols).map
      Symbol.reading) = some (.timeOfDay ⟨10, 0, 0, 0⟩) := by decide +kernel
  have valid : (⟨.farAway, ⟨10, 0, 0, 0⟩⟩ : DateTime).Valid := ⟨Date.valid_farAway, by decide⟩
  have present : Zone.utc.dateTime .farAway = ⟨.farAway, .midnight⟩ := Instant.dateTime_farAway
  have today : (Zone.utc.dateTime .farAway).atTime ⟨10, 0, 0, 0⟩
      = .ok ⟨.farAway, ⟨10, 0, 0, 0⟩⟩ := by
    rw [present]
    exact DateTime.checked_of_valid valid
  have named : evaluate (some (.ofChars "10:00".toList)) .utc .farAway
      = .ok (DateTime.instant ⟨.farAway, ⟨10, 0, 0, 0⟩⟩ 0) := by
    rw [evaluate_literal (by decide) literal]
    unfold Literal.toInstant
    dsimp only
    rw [today]
    rfl
  obtain ⟨a, chars, amount, unit⟩ :
      ∃ a : Addend, a.chars = " + 1d".toList ∧ a.amount = 1 ∧ a.unit = .day :=
    ⟨⟨.space, false, .space, ['1'], .none, .day, .none, by simp, by simp, by decide⟩, rfl, rfl, rfl⟩
  refine ⟨[a], (List.append_nil _).trans chars, ⟨_, named⟩, ?_, nofun⟩
  have shown : Zone.utc.dateTime (DateTime.instant ⟨.farAway, ⟨10, 0, 0, 0⟩⟩ 0)
      = ⟨.farAway, ⟨10, 0, 0, 0⟩⟩ := Instant.dateTime_instant valid 0
  have near := valid.year_plus (show -1 ≤ (1 : Int) by decide) (show (1 : Int) ≤ 1 by decide) .day
  have large := le_smallestLong
  rw [evaluate_foldl (by decide), named]
  refine Addend.step_of_tooLong ?_
  dsimp only at near
  rw [Date.year_farAway] at near
  rw [shown, amount, unit, tooLong_iff]
  omega

end Almanac
