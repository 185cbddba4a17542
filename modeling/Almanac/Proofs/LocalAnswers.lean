import Almanac.Proofs.ExpressionReading
import Almanac.Proofs.LocalTime
import Almanac.Proofs.ZoneTable

namespace Almanac

namespace DateTime

/-- A date and time in the year for which its offset is looked up. -/
def inLookupYear (c : DateTime) : DateTime :=
  ⟨c.lookup.date, c.time⟩

/-- The milliseconds between a date and time and the one in the year of its lookup. -/
def yearShift (c : DateTime) : Int :=
  c.epochMillis 0 - c.inLookupYear.epochMillis 0

theorem Valid.inLookupYear {c : DateTime} (h : c.Valid) : c.inLookupYear.Valid :=
  ⟨h.lookup.1, h.2⟩

theorem year_inLookupYear_le (c : DateTime) : c.inLookupYear.date.year ≤ 9998 :=
  c.lookup_year_range.2

theorem lookup_inLookupYear (c : DateTime) : c.inLookupYear.lookup = c.lookup := by
  obtain ⟨low, high⟩ := c.lookup_year_range
  exact lookup_eq low high

theorem epochMillis_eq_add_shift (c : DateTime) (offset : Int) :
    c.epochMillis offset = c.inLookupYear.epochMillis offset + c.yearShift := by
  have := c.epochMillis_eq offset
  have := c.inLookupYear.epochMillis_eq offset
  unfold yearShift
  omega

end DateTime

namespace Zone

variable {z : Zone} {c : DateTime} {i r : Instant} {preferred? : Option Int}

/-- The rule by which a zone's clocks change every year. -/
def yearly? (z : Zone) : Option YearlyRule :=
  match z.clock with
  | .fixed _ => none
  | .ruled rules => rules.yearly

theorem answers_iff_of_fixed {offset : Int} (clock : z.clock = .fixed offset) (valid : c.Valid) :
    z.Answers c preferred? r ↔ r = z.instant c preferred? := by
  have same (i : Instant) : z.offsetAt i = offset := by simp [offsetAt, clock]
  have instant : z.instant c preferred? = c.instant offset := by simp [Zone.instant, clock]
  have shows (i : Instant) : z.dateTime i = c ↔ i = c.instant offset := by
    rw [dateTime_eq_iff valid, same]
  rw [instant]
  constructor
  · intro h
    by_cases preferred : preferred? = some offset
    · exact h.preferred _ ((shows _).mpr rfl) (by rw [same, preferred])
    · have other : ∀ i, z.dateTime i = c → preferred? ≠ some (z.offsetAt i) := by
        intro i _
        rw [same]
        exact preferred
      exact (shows _).mp (h.earliest ⟨_, (shows _).mpr rfl⟩ other).1
  · rintro rfl
    refine ⟨fun i shown _ => ((shows i).mp shown).symm, fun _ _ => ⟨(shows _).mpr rfl, ?_⟩,
      fun unseen => absurd ((shows _).mpr rfl) (unseen _)⟩
    intro i shown
    exact Int.le_of_eq (congrArg Instant.epochMillis ((shows i).mp shown).symm)

/-- In the years for which offsets are known, a zone finds the instant that is meant and no other
one is meant. -/
theorem Ordinary.answers_iff (h : z.Ordinary) (valid : c.Valid)
    (known : c.date.year ≤ 9998 ∨ z.yearly? = none) :
    z.Answers c preferred? r ↔ r = z.instant c preferred? := by
  rcases h with ⟨offset, clock, -⟩ | ⟨rules, clock, regular⟩
  · exact answers_iff_of_fixed clock valid
  · have yearly : z.yearly? = rules.yearly := by simp [yearly?, clock]
    rw [yearly] at known
    have tracks := tracks_of_regular clock regular valid known
    constructor
    · intro hr
      exact tracks.answers_unique hr (tracks.answers preferred?)
    · rintro rfl
      exact tracks.answers preferred?

/-- In these years the date and time that the clocks show at an instant leads back to it. -/
theorem Ordinary.instant_dateTime (h : z.Ordinary)
    (known : (z.dateTime i).date.year ≤ 9998 ∨ z.yearly? = none) :
    z.instant (z.dateTime i) (some (z.offsetAt i)) = i := by
  have answers : z.Answers (z.dateTime i) (some (z.offsetAt i)) _ :=
    (h.answers_iff (i.valid_dateTime _) known).mpr rfl
  exact answers.preferred i rfl rfl

/-- Offsets are looked up for the same time in a year that is known. -/
theorem epochMillis_instant (z : Zone) (c : DateTime) (preferred? : Option Int) :
    (z.instant c preferred?).epochMillis
      = (z.instant c.inLookupYear preferred?).epochMillis + c.yearShift := by
  have shift := c.epochMillis_eq_add_shift
  unfold instant
  rw [DateTime.lookup_inLookupYear]
  cases z.clock with
  | fixed offset => exact shift offset
  | ruled rules =>
    dsimp only
    split
    · dsimp only
      rw [shift]
      omega
    · exact shift _
    · exact shift _

theorem Ordinary.answers_inLookupYear_iff (h : z.Ordinary) (valid : c.Valid) :
    z.Answers c.inLookupYear preferred? ⟨r.epochMillis - c.yearShift⟩
      ↔ r = z.instant c preferred? := by
  have shift := z.epochMillis_instant c preferred?
  rw [h.answers_iff valid.inLookupYear (.inl c.year_inLookupYear_le), Instant.eq_iff,
    Instant.eq_iff, shift]
  dsimp only
  omega

/-- A zone finds the instant that is meant by a date and time, but in the years after 9998 of a zone
whose clocks change every year: there it takes the answer for 9998, and is right just where that is
the same. -/
theorem Available.instant_answers (h : z.Available) (valid : c.Valid) (preferred? : Option Int) :
    (c.date.year ≤ 9998 ∨ z.yearly? = none → z.Answers c preferred? (z.instant c preferred?))
      ∧ (z.Answers c preferred? (z.instant c preferred?) ↔
        ∃ r, z.Answers c preferred? r
          ∧ z.Answers c.inLookupYear preferred? ⟨r.epochMillis - c.yearShift⟩) := by
  refine ⟨fun known => (h.ordinary.answers_iff valid known).mpr rfl, fun right => ?_, ?_⟩
  · exact ⟨_, right, (h.ordinary.answers_inLookupYear_iff valid).mpr rfl⟩
  · rintro ⟨r, hr, hr'⟩
    rw [← (h.ordinary.answers_inLookupYear_iff valid).mp hr']
    exact hr

def helsinki : Zone :=
  ⟨"Europe/Helsinki", .ruled helsinkiRules⟩

theorem resolve_helsinki : resolve "Europe/Helsinki" = .ok helsinki := by
  decide +kernel

theorem available_helsinki : helsinki.Available :=
  .resolved resolve_helsinki

theorem instant_answers_in_gap :
    helsinki.Available ∧ DateTime.Valid ⟨⟨2024, 3, 31⟩, ⟨3, 30, 0, 0⟩⟩
      ∧ helsinki.Answers ⟨⟨2024, 3, 31⟩, ⟨3, 30, 0, 0⟩⟩ none
        (helsinki.instant ⟨⟨2024, 3, 31⟩, ⟨3, 30, 0, 0⟩⟩ none) :=
  ⟨available_helsinki, by decide,
    (available_helsinki.instant_answers (by decide) none).1 (.inl (by decide))⟩

/-- On 28 March 9999 daylight time begins in Helsinki, on 28 March 9998 it has not begun. -/
theorem not_answers_in_last_march :
    helsinki.Available ∧ DateTime.Valid ⟨⟨9999, 3, 28⟩, ⟨12, 0, 0, 0⟩⟩
      ∧ ¬ helsinki.Answers ⟨⟨9999, 3, 28⟩, ⟨12, 0, 0, 0⟩⟩ none
        (helsinki.instant ⟨⟨9999, 3, 28⟩, ⟨12, 0, 0, 0⟩⟩ none) := by
  refine ⟨available_helsinki, by decide, fun answers => ?_⟩
  have seen : helsinki.dateTime (DateTime.instant ⟨⟨9999, 3, 28⟩, ⟨12, 0, 0, 0⟩⟩ 10800)
      = ⟨⟨9999, 3, 28⟩, ⟨12, 0, 0, 0⟩⟩ := by decide +kernel
  have shown := (answers.earliest ⟨_, seen⟩ (fun _ _ => by simp)).1
  exact absurd shown (by decide +kernel)

/-- The date and time that a zone's clocks show at an instant leads back to the instant by the
offset in effect, but in the years after 9998 of a zone whose clocks change every year: there it
does where the offset is also right for the same date and time in 9998. -/
theorem Available.instant_of_dateTime (h : z.Available) (i : Instant) :
    ((z.dateTime i).date.year ≤ 9998 ∨ z.yearly? = none →
        z.instant (z.dateTime i) (some (z.offsetAt i)) = i)
      ∧ (z.instant (z.dateTime i) (some (z.offsetAt i)) = i ↔
        z.Answers (z.dateTime i).inLookupYear (some (z.offsetAt i))
          ((z.dateTime i).inLookupYear.instant (z.offsetAt i)))
      ∧ (-9999 ≤ (z.dateTime i).date.year ∧ (z.dateTime i).date.year ≤ 9999 →
        evaluate (some (.ofChars "now".toList)) z i
          = .ok (z.instant (z.dateTime i) (some (z.offsetAt i)))) := by
  have valid : (z.dateTime i).Valid := i.valid_dateTime _
  refine ⟨fun known => ?_, ?_, fun ⟨low, high⟩ => evaluate_now low high⟩
  · have answers : z.Answers (z.dateTime i) (some (z.offsetAt i)) _ :=
      (h.ordinary.answers_iff valid known).mpr rfl
    exact answers.preferred i rfl rfl
  · have shift := (z.dateTime i).epochMillis_eq_add_shift (z.offsetAt i)
    have back : (z.dateTime i).epochMillis (z.offsetAt i) = i.epochMillis :=
      DateTime.epochMillis_ofEpochMillis _ _
    have moved : (z.dateTime i).inLookupYear.instant (z.offsetAt i)
        = ⟨i.epochMillis - (z.dateTime i).yearShift⟩ := by
      refine congrArg Instant.mk ?_
      omega
    rw [moved, h.ordinary.answers_inLookupYear_iff valid]
    exact eq_comm

/-- The clocks in Helsinki show half past three twice on 27 October 2024. This is the second time. -/
theorem instant_of_dateTime_in_repeated_hour :
    helsinki.Available
      ∧ helsinki.instant (helsinki.dateTime ⟨1729992600000⟩)
          (some (helsinki.offsetAt ⟨1729992600000⟩)) = ⟨1729992600000⟩ :=
  ⟨available_helsinki,
    (available_helsinki.instant_of_dateTime ⟨1729992600000⟩).1 (.inl (by decide +kernel))⟩

/-- Noon of 28 March 9999 in Helsinki is taken for an hour later. -/
theorem evaluate_now_in_last_march :
    helsinki.Available
      ∧ helsinki.instant (helsinki.dateTime ⟨253378227600000⟩)
          (some (helsinki.offsetAt ⟨253378227600000⟩)) ≠ ⟨253378227600000⟩
      ∧ evaluate (some (.ofChars "now".toList)) helsinki ⟨253378227600000⟩
        = .ok ⟨253378231200000⟩ := by
  refine ⟨available_helsinki, by decide +kernel, ?_⟩
  rw [evaluate_now (by decide +kernel) (by decide +kernel)]
  exact congrArg Except.ok (by decide +kernel)

end Zone

end Almanac
