import Almanac.Proofs.Forms
import Almanac.Proofs.LocalAnswers
import Almanac.Proofs.NearClocks
import Almanac.Proofs.YearTurns

namespace Almanac

namespace Anchor

/-- The instant that an anchor is meant to name in all zones, if it is an end of time. -/
def endOfTime? : Anchor → Option Instant
  | min | distantPast => some .startOfYearZero
  | max | distantFuture => some .lastDayOfYear9999
  | _ => none

variable {a : Anchor} {i : Instant} {z : Zone}

theorem resolve_endOfTime (named : a.endOfTime? = some i) (present : DateTime) (z : Zone) :
    a.resolve present z = z.dateTime i := by
  cases a with
  | min | max | distantPast | distantFuture =>
    cases named
    rfl
  | _ => cases named

theorem instant_endOfTime (named : a.endOfTime? = some i) (h : z.Ordinary)
    (preferred? : Option Int) : z.instant (z.dateTime i) preferred? = i := by
  cases a with
  | min | distantPast =>
    cases named
    exact h.instant_startOfYearZero preferred?
  | max | distantFuture =>
    cases named
    exact h.instant_lastDayOfYear9999 preferred?
  | _ => cases named

/-- On clocks less than a day from UTC both ends of time lie in years of at most four digits. -/
theorem short_endOfTime (named : a.endOfTime? = some i) (h : z.NearUtc) :
    (z.dateTime i).date.Short := by
  have near := h.offsetAt_lt i
  have shown := (Instant.valid_dateTime i (z.offsetAt i)).wallSecond_lt_newYearSecond_iff
  rw [DateTime.wallSecond_dateTime] at shown
  have low : newYearSecond (-9999) = -377705116800 := by decide
  have high := newYearSecond_10000
  have first : Instant.startOfYearZero.epochSecond = -62167219200 := by decide
  have last : Instant.lastDayOfYear9999.epochSecond = 253402214400 := by decide
  have range : -62167219200 ≤ i.epochSecond ∧ i.epochSecond ≤ 253402214400 := by
    cases a with
    | min | max | distantPast | distantFuture =>
      cases named
      omega
    | _ => cases named
  have after := mt (shown (-9999)).mpr (by omega)
  have before := (shown 10000).mp (by omega)
  exact ⟨Int.not_lt.mp after, Int.le_of_lt_add_one before⟩

end Anchor

theorem evaluate_anchor {text : Text} {a : Anchor} (spelled : Anchor.find? text.chars = some a)
    (zone : Zone) (now : Instant) :
    evaluate (some text) zone now
      = zone.land (a.resolve (zone.dateTime now) zone) (zone.offsetAt now) := by
  have trimmed : (trimSymbols text.symbols).map Symbol.reading = trim text.chars :=
    map_reading_trimSymbols text.symbols
  rw [← Anchor.find?_trim, ← trimmed] at spelled
  have filled : trimSymbols text.symbols ≠ [] := by
    intro empty
    rw [empty] at spelled
    cases (by decide +kernel : Anchor.find? [] = none).symm.trans spelled
  have fits : Form.anchor.read? (trimSymbols text.symbols) = some (.ok (.anchor a)) := by
    unfold Form.read?
    rw [spelled]
    rfl
  rw [evaluate_some filled, Form.read_of_anchor fits]
  rfl

/-- Both ends of time are the same instants in all zones, whatever the present is. -/
theorem evaluate_endOfTime {id : Text} {zone : Zone} (resolved : Zone.resolve id = .ok zone)
    {text : Text} {a : Anchor} (spelled : keywordForm text.chars = a.keyword.toList) {i : Instant}
    (named : a.endOfTime? = some i) (now : Instant) : evaluate (some text) zone now = .ok i := by
  have near := Zone.nearUtc_of_resolve resolved
  rw [evaluate_anchor (Anchor.find?_eq_some_iff.mpr spelled), Anchor.resolve_endOfTime named,
    Zone.land_ok_iff]
  exact ⟨Anchor.short_endOfTime named near, (Anchor.instant_endOfTime named near.ordinary _).symm⟩

theorem evaluate_endOfTime_helsinki :
    Zone.resolve "Europe/Helsinki" = .ok Zone.helsinki
      ∧ keywordForm (Text.ofString " Distant__ FUTURE").chars = Anchor.distantFuture.keyword.toList
      ∧ evaluate (some " Distant__ FUTURE") Zone.helsinki ⟨0⟩ = .ok .lastDayOfYear9999 := by
  have spelled : keywordForm (Text.ofString " Distant__ FUTURE").chars
      = Anchor.distantFuture.keyword.toList := by decide +kernel
  exact ⟨Zone.resolve_helsinki, spelled, evaluate_endOfTime Zone.resolve_helsinki spelled rfl ⟨0⟩⟩

end Almanac
