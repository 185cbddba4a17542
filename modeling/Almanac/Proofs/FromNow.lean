import Almanac.Proofs.Forms
import Almanac.Proofs.LocalAnswers
import Almanac.Proofs.SumReading

namespace Almanac

/-- A duration by itself, with a sign or without, is a step from the present. -/
theorem evaluate_signed (negative? : Option Bool) (d : UnsignedDuration) (zone : Zone)
    (now : Instant) :
    evaluate (some (.ofChars (signText negative? ++ d.chars))) zone now
      = (d.value (negative?.getD false)).bind fun v =>
        zone.land (v.addTo (zone.dateTime now)) (zone.offsetAt now) := by
  obtain ⟨text, ht⟩ : ∃ text, Text.ofChars (signText negative? ++ d.chars) = text := ⟨_, rfl⟩
  have spelled : trim ((trimSymbols text.symbols).map Symbol.reading)
      = trim (signText negative? ++ d.chars) := by
    rw [← ht, Text.symbols_ofChars, map_reading_trimSymbols, map_reading_char, trim, trimBy_trimBy]
  have filled : trimSymbols text.symbols ≠ [] := by
    intro empty
    have parts := d.durationParts?_signed negative?
    rw [← durationParts?_trim, ← spelled, empty] at parts
    have nothing : durationParts? (trim ([].map Symbol.reading)) = none := by decide
    rw [nothing] at parts
    cases parts
  have fits : Form.duration.read? (trimSymbols text.symbols)
      = some ((d.value (negative?.getD false)).map Expression.fromNow) := by
    unfold Form.read?
    rw [UnsignedDuration.read?_of_spelled spelled]
    cases d.value (negative?.getD false) <;> rfl
  rw [ht, evaluate_some filled, Form.read_of_duration fits]
  cases d.value (negative?.getD false) <;> rfl

variable {z : Zone} {now i : Instant}

/-- A duration that is added to the present is a step from the instant that the present is taken
for. -/
theorem evaluate_now_sum (named : evaluate (some (.ofChars "now".toList)) z now = .ok i)
    (negative : Bool) (d : UnsignedDuration) :
    evaluate (some (.ofChars ("now ".toList ++ signOf negative :: ' ' :: d.chars))) z now
      = evaluate (some (.ofChars (signOf negative :: d.chars))) z i := by
  have text : Text.ofChars ("now ".toList ++ signOf negative :: ' ' :: d.chars)
      = (Text.ofChars "now".toList).followedBy (Blanks.space.chars ++ signOf negative ::
        UnsignedDuration.chars { d with beforeDigits := .followedBy .space d.beforeDigits }) := by
    unfold Text.followedBy Text.ofChars
    rw [← List.map_append]
    rfl
  have signed := evaluate_signed (some negative) d z i
  rw [text, evaluate_sum (by decide), named]
  exact signed.symm

namespace Zone

/-- A duration by itself is the same as the present with the duration added to it, for the years in
which the present leads back to itself. In the others it is the same step from another instant. -/
theorem Available.evaluate_from_now (h : z.Available) (low : -9999 ≤ (z.dateTime now).date.year)
    (high : (z.dateTime now).date.year ≤ 9999) (d : UnsignedDuration) :
    evaluate (some (.ofChars ('+' :: d.chars))) z now = evaluate (some (.ofChars d.chars)) z now
      ∧ ((z.dateTime now).date.year ≤ 9998 ∨ z.yearly? = none →
        evaluate (some (.ofChars d.chars)) z now
            = evaluate (some (.ofChars ("now + ".toList ++ d.chars))) z now
          ∧ evaluate (some (.ofChars ('-' :: d.chars))) z now
            = evaluate (some (.ofChars ("now - ".toList ++ d.chars))) z now)
      ∧ ∃ i, evaluate (some (.ofChars "now".toList)) z now = .ok i
        ∧ evaluate (some (.ofChars ("now + ".toList ++ d.chars))) z now
          = evaluate (some (.ofChars d.chars)) z i
        ∧ evaluate (some (.ofChars ("now - ".toList ++ d.chars))) z now
          = evaluate (some (.ofChars ('-' :: d.chars))) z i := by
  have plus (i : Instant) : evaluate (some (.ofChars ('+' :: d.chars))) z i
      = evaluate (some (.ofChars d.chars)) z i :=
    (evaluate_signed (some false) d z i).trans (evaluate_signed none d z i).symm
  have named := evaluate_now low high
  have added := evaluate_now_sum named false d
  have subtracted := evaluate_now_sum named true d
  refine ⟨plus now, fun known => ?_, _, named, added.trans (plus _), subtracted⟩
  have back := h.ordinary.instant_dateTime known
  rw [back] at added subtracted
  exact ⟨(plus now).symm.trans added.symm, subtracted.symm⟩

def oneHour : UnsignedDuration :=
  ⟨.none, ['1'], .none, .hour, .none, by simp, by simp⟩

theorem evaluate_from_repeated_hour :
    helsinki.Available ∧ (helsinki.dateTime ⟨1729992600000⟩).date.year = 2024
      ∧ oneHour.chars = "1h".toList
      ∧ evaluate (some (.ofChars oneHour.chars)) helsinki ⟨1729992600000⟩
        = evaluate (some (.ofChars ("now + ".toList ++ oneHour.chars))) helsinki
          ⟨1729992600000⟩ := by
  have year : (helsinki.dateTime ⟨1729992600000⟩).date.year = 2024 := by decide +kernel
  obtain ⟨-, same, -⟩ := @Available.evaluate_from_now helsinki ⟨1729992600000⟩ available_helsinki
    (by omega) (by omega) oneHour
  exact ⟨available_helsinki, year, rfl, (same (.inl (by omega))).1⟩

/-- At noon of 28 March 9999 in Helsinki an hour leads two hours ahead, and the present with an hour
added to it three. -/
theorem evaluate_from_last_march :
    helsinki.Available ∧ (helsinki.dateTime ⟨253378227600000⟩).date.year = 9999
      ∧ oneHour.chars = "1h".toList
      ∧ evaluate (some (.ofChars oneHour.chars)) helsinki ⟨253378227600000⟩
        = .ok ⟨253378234800000⟩
      ∧ evaluate (some (.ofChars ("now + ".toList ++ oneHour.chars))) helsinki ⟨253378227600000⟩
        = .ok ⟨253378238400000⟩ := by
  have year : (helsinki.dateTime ⟨253378227600000⟩).date.year = 9999 := by decide +kernel
  have named := @evaluate_now helsinki ⟨253378227600000⟩ (by omega) (by omega)
  have bare := evaluate_signed none oneHour helsinki ⟨253378227600000⟩
  have added := (evaluate_now_sum named false oneHour).trans
    (evaluate_signed (some false) oneHour helsinki _)
  refine ⟨available_helsinki, year, rfl, bare.trans ?_, added.trans ?_⟩
  · decide +kernel
  · decide +kernel

end Zone

end Almanac
