import Almanac.Proofs.InstantLiterals
import Almanac.Proofs.LocalSpellings
import Almanac.Proofs.ZoneTable

namespace Almanac

/-- Minutes after a colon, and seconds after another one if there are any. -/
def OffsetRest.ofParts (minute second : Nat) (hm : minute < 100) (hs : second < 100) : OffsetRest :=
  if second = 0 then .minutes ⟨true, .two minute hm⟩
  else .seconds ⟨true, .two minute hm⟩ ⟨true, .two second hs⟩

namespace OffsetRest

variable {minute second : Nat} (hm : minute < 100) (hs : second < 100)

theorem chars_ofParts :
    (ofParts minute second hm hs).chars
      = ':' :: (padded 2 minute ++ if second = 0 then [] else ':' :: padded 2 second) := by
  unfold ofParts
  by_cases zero : second = 0
  · rw [if_pos zero, if_pos zero, List.append_nil]
    rfl
  · rw [if_neg zero, if_neg zero]
    rfl

theorem minute_ofParts : (ofParts minute second hm hs).minute = minute := by
  unfold ofParts
  split <;> exact Digits.value_two hm

theorem second_ofParts : (ofParts minute second hm hs).second = second := by
  unfold ofParts
  split
  next zero => exact zero.symm
  · exact Digits.value_two hs

end OffsetRest

/-- An offset in its own text. -/
def WrittenOffset.ofSeconds (offset : Int) (h : offset.natAbs ≤ 68399) : WrittenOffset :=
  if offset = 0 then .utc true
  else
    .signed (decide (offset < 0)) (.two (offset.natAbs / 3600) (by omega))
      (.ofParts (offset.natAbs % 3600 / 60) (offset.natAbs % 60) (by omega) (by omega))

namespace WrittenOffset

variable {offset : Int} (h : offset.natAbs ≤ 68399)

theorem chars_ofSeconds : (ofSeconds offset h).chars = offsetText offset := by
  unfold ofSeconds offsetText
  dsimp only
  by_cases zero : offset = 0
  · rw [if_pos zero, if_pos zero]
    rfl
  · have sign : signOf (decide (offset < 0)) = if offset < 0 then '-' else '+' := by
      simp [signOf]
    rw [if_neg zero, if_neg zero, chars, OffsetRest.chars_ofParts, sign]
    simp only [List.cons_append, List.append_assoc]
    rfl

theorem seconds_ofSeconds : (ofSeconds offset h).seconds = offset := by
  unfold ofSeconds
  by_cases zero : offset = 0
  · rw [if_pos zero, zero]
    rfl
  · rw [if_neg zero, seconds, OffsetRest.minute_ofParts, OffsetRest.second_ofParts,
      Digits.value_two]
    simp only [decide_eq_true_eq]
    split <;> omega

theorem inRange_ofSeconds : (ofSeconds offset h).InRange := by
  unfold ofSeconds
  by_cases zero : offset = 0
  · rw [if_pos zero]
    trivial
  · rw [if_neg zero, InRange, OffsetRest.minute_ofParts, OffsetRest.second_ofParts,
      Digits.value_two]
    omega

end WrittenOffset

namespace WrittenInstant

variable (w : WrittenInstant) (zone : Zone) (now : Instant)

/-- With an offset that clocks may have, a date and time is read as by clocks that have it. -/
theorem kind_answer (inRange : w.offset.InRange) :
    w.answer.mapError Failure.category?
      = w.dateTime.value.datedAnswer w.Wide (.atOffset w.offset.seconds) := by
  unfold answer DateTime.datedAnswer DateTime.localAnswer
  dsimp only
  by_cases wide : w.Wide
  · rw [if_pos wide, if_pos wide]
    rfl
  · rw [if_neg wide, if_neg wide]
    by_cases valid : w.dateTime.value.Valid
    · rw [DateTime.fault?_eq_none_iff.mpr valid, if_pos inRange, if_pos valid,
        ← DateTime.instant_eq_days]
      rfl
    · obtain ⟨fault, found⟩ := Option.ne_none_iff_exists'.mp (mt DateTime.fault?_eq_none_iff.mp valid)
      rw [found, if_neg valid]
      rfl

end WrittenInstant

/-- The text of an offset after that of a date and time means what the clocks of a zone with this
offset show, as an instant and as a kind of failure, in every zone and at every time. The instant is
so many seconds before the moment at which clocks of UTC show the same. -/
theorem offsetText_agrees (w : WrittenDateTime) {offset : Int} (low : -68399 ≤ offset)
    (high : offset ≤ 68399) (zone : Zone) (now now' : Instant) :
    ∃ fixed, Zone.ofOffset offset = .ok fixed
      ∧ evaluateKind (.ofChars (w.chars ++ offsetText offset)) zone now
        = evaluateKind (.ofChars w.chars) fixed now'
      ∧ evaluateKind (.ofChars w.chars) fixed now'
        = if w.date.year.Wide then .error (some .range)
          else if w.value.Valid then .ok ⟨w.value.epochMillis 0 - offset * 1000⟩
          else .error (some .expression) := by
  have size : offset.natAbs ≤ 68399 := by omega
  obtain ⟨o, ho⟩ : ∃ o, o = WrittenOffset.ofSeconds offset size := ⟨_, rfl⟩
  have chars : o.chars = offsetText offset := by rw [ho, WrittenOffset.chars_ofSeconds]
  have seconds : o.seconds = offset := by rw [ho, WrittenOffset.seconds_ofSeconds]
  have inRange : o.InRange := by
    rw [ho]
    exact WrittenOffset.inRange_ofSeconds size
  have written := WrittenInstant.kind_answer ⟨w, o⟩ inRange
  have shown := w.evaluateKind_chars (.atOffset offset) now'
  rw [seconds] at written
  refine ⟨.atOffset offset, Zone.ofOffset_eq_ok_iff.mpr ⟨by omega, rfl⟩, ?_, ?_⟩
  · rw [shown, ← chars]
    refine Eq.trans ?_ written
    exact congrArg (Except.mapError Failure.category?)
      (WrittenInstant.evaluate_text ⟨w, o⟩ zone now)
  · rw [shown, DateTime.datedAnswer, DateTime.localAnswer, ← DateTime.epochMillis_eq]
    rfl

/-- Half a minute to the new year, by clocks that are the farthest from UTC. -/
theorem offsetText_agrees_over_new_year :
    evaluateKind (.ofChars "-0001-12-31T23:59:30-18:59:59".toList) .utc ⟨0⟩
      = .ok ⟨-62167150831000⟩ := by
  obtain ⟨_, -, agree, shown⟩ := offsetText_agrees
    ⟨⟨⟨some true, 4, .ofChars ['0', '0', '0', '1'] rfl, Nat.le_refl 4⟩, .ofChars ['1', '2'] rfl,
      .ofChars ['3', '1'] rfl⟩, true,
      .seconds (.ofChars ['2', '3'] rfl) (.ofChars ['5', '9'] rfl) (.ofChars ['3', '0'] rfl)⟩
    (show -68399 ≤ (-68399 : Int) by decide) (by decide) .utc ⟨0⟩ ⟨0⟩
  exact agree.trans (shown.trans (by decide +kernel))

end Almanac
