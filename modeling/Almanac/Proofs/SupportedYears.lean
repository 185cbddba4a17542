import Almanac.Proofs.EvaluatedYears
import Almanac.Proofs.IsoReading

namespace Almanac

/-- Where a clock less than a day from UTC shows a year that is not at the ends of the window, the
year in UTC lies in the window. -/
theorem Instant.short_of_near {i : Instant} {offset : Int} (near : offset.natAbs ≤ 86400)
    (low : -9998 ≤ (i.dateTime offset).date.year) (high : (i.dateTime offset).date.year ≤ 9998) :
    (i.dateTime 0).date.Short := by
  have shown := (i.valid_dateTime offset).wallSecond_lt_newYearSecond_iff
  have utc := (i.valid_dateTime 0).wallSecond_lt_newYearSecond_iff
  have wall := DateTime.wallSecond_dateTime i offset
  have wall' := DateTime.wallSecond_dateTime i 0
  have years : newYearSecond (-9999) + 86400 ≤ newYearSecond (-9998)
      ∧ newYearSecond 9999 + 86400 ≤ newYearSecond 10000 := by decide
  have after := mt (shown (-9998)).mp (by omega)
  have before := (shown 9999).mpr (by omega)
  have first := mt (utc (-9999)).mpr (by omega)
  have last := (utc 10000).mp (by omega)
  unfold Date.Short
  omega

section

variable {zone : Zone} {now i : Instant}

theorem reread_iff (i : Instant) (zone : Zone) (now : Instant) :
    i.reread zone now = .ok i ↔ (i.dateTime 0).date.Short := by
  unfold Instant.reread Instant.isoText Date.Short
  by_cases long : TooLong (i.dateTime 0).date.year
  · rw [Instant.written_of_tooLong long]
    exact iff_of_false nofun long.wide
  · rw [Instant.written_of_short long]
    dsimp only [Except.bind]
    rw [evaluate_isoForm_eq_ite]
    constructor
    · intro back
      split at back
      next within => exact within
      · cases back
    · intro within
      exact if_pos within

/-- Where a text names an instant, the year is one of the window on the clock on which the text is
read, and so it is in UTC but for the day at either end. Only of a time of day by itself the date is
the present one, in whatever year that is. The ISO text of the instant names it again just where the
year in UTC lies in the window. -/
theorem evaluate_window {text : Text} (available : zone.Available)
    (named : evaluate (some text) zone now = .ok i) :
    (∃ e offset, Expression.read (trimSymbols text.symbols) = .ok e ∧ e.ReadOn zone offset
        ∧ (¬ e.IsTime → (i.dateTime offset).date.Short)
        ∧ (e.IsTime → (i.dateTime offset).date = (zone.dateTime now).date)
        ∧ (offset.natAbs ≤ 86400 → -9998 ≤ (i.dateTime offset).date.year →
          (i.dateTime offset).date.year ≤ 9998 → (i.dateTime 0).date.Short))
      ∧ ((i.dateTime 0).date.Short ↔
        ∀ zone' now', i.reread zone' now' = .ok i) := by
  constructor
  · by_cases blank : trimSymbols text.symbols = []
    · simp only [evaluate, blank] at named
      cases named
    · rw [evaluate_some blank] at named
      cases read : Expression.read (trimSymbols text.symbols) with
      | error failure =>
        rw [read] at named
        cases named
      | ok e =>
        rw [read] at named
        have short : ∀ text l, e = .literal text l → l.Short := by
          rintro text l rfl
          exact Literal.short_of_read? (Expression.literal_of_read read)
        obtain ⟨offset, on, window, today⟩ := e.short_of_toInstant available.ordinary short named
        exact ⟨e, offset, rfl, on, window, today, Instant.short_of_near⟩
  · constructor
    · intro short zone' now'
      exact (reread_iff i zone' now').mpr short
    · intro back
      exact (reread_iff i .utc now).mp (back .utc now)

theorem evaluate_window_of_time :
    Zone.utc.Available
      ∧ evaluate (some (.ofChars "10:00".toList)) .utc ⟨1709221530250⟩ = .ok ⟨1709200800000⟩
      ∧ ∀ zone' now', Instant.reread ⟨1709200800000⟩ zone' now' = .ok ⟨1709200800000⟩ := by
  have literal : Literal.read? ((trimSymbols (Text.ofChars "10:00".toList).symbols).map
      Symbol.reading) = some (.timeOfDay ⟨10, 0, 0, 0⟩) := by decide +kernel
  have named : evaluate (some (.ofChars "10:00".toList)) .utc ⟨1709221530250⟩
      = .ok ⟨1709200800000⟩ := by
    rw [evaluate_literal (by decide) literal]
    rfl
  exact ⟨.utc, named, (evaluate_window .utc named).2.mp (by decide +kernel)⟩

/-- In the year 10000 a time of day names an instant outside the window, and on clocks west of UTC
the last minute of 9999 does. Their ISO texts are refused. -/
theorem evaluate_outside_window :
    (evaluate (some (.ofChars "10:00".toList)) .utc ⟨253402300800000⟩ = .ok ⟨253402336800000⟩
        ∧ ¬ (Instant.dateTime ⟨253402336800000⟩ 0).date.Short
        ∧ Instant.reread ⟨253402336800000⟩ .utc ⟨253402300800000⟩ ≠ .ok ⟨253402336800000⟩)
      ∧ evaluate (some (.ofChars "9999-12-31T23:59-01:00".toList)) .utc ⟨0⟩ = .ok ⟨253402304340000⟩
        ∧ ¬ (Instant.dateTime ⟨253402304340000⟩ 0).date.Short := by
  have time : Literal.read? ((trimSymbols (Text.ofChars "10:00".toList).symbols).map
      Symbol.reading) = some (.timeOfDay ⟨10, 0, 0, 0⟩) := by decide +kernel
  have west : Literal.read? ((trimSymbols (Text.ofChars "9999-12-31T23:59-01:00".toList).symbols).map
      Symbol.reading)
        = some (.instant ⟨⟨9999, 12, 31⟩, ⟨23, 59, 0, 0⟩⟩ ⟨true, 1, 0, 0⟩) := by decide +kernel
  have wide : ¬ (Instant.dateTime ⟨253402336800000⟩ 0).date.Short := by decide +kernel
  refine ⟨⟨?_, wide, ?_⟩, ?_, by decide +kernel⟩
  · rw [evaluate_literal (by decide) time]
    rfl
  · rw [ne_eq, reread_iff]
    exact wide
  · rw [evaluate_literal (by decide) west]
    rfl

end

end Almanac
