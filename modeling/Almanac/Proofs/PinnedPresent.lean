import Almanac.Proofs.AcceptedSettings
import Almanac.Proofs.NearClocks

namespace Almanac

namespace Expression

/-- An expression whose literal has its fields in range. -/
def Sound : Expression → Prop
  | literal _ l => l.Sound
  | anchor _ | fromNow _ => True
  | sum base _ => base.Sound

/-- Every date and time to which an expression leads in a zone lies in a year from `-last` to
`last`, the present or a literal that it starts from aside. -/
def StaysWithin (last : Int) (zone : Zone) (now : Instant) : Expression → Prop
  | literal _ _ => True
  | anchor a =>
    -last ≤ (a.resolve (zone.dateTime now) zone).date.year
      ∧ (a.resolve (zone.dateTime now) zone).date.year ≤ last
  | fromNow d =>
    -last ≤ (d.addTo (zone.dateTime now)).date.year
      ∧ (d.addTo (zone.dateTime now)).date.year ≤ last
  | sum base d =>
    base.StaysWithin last zone now ∧ ∀ i, base.toInstant zone now = .ok i →
      -last ≤ (d.addTo (zone.dateTime i)).date.year ∧ (d.addTo (zone.dateTime i)).date.year ≤ last

/-- The durations that are added to the start of an expression. -/
def steps : Expression → Nat
  | sum base _ => base.steps + 1
  | _ => 0

/-- How many days an expression can be apart in two zones. Steps add to it, but dates of the window
are never further apart than its ends. -/
def drift (e : Expression) : Int :=
  min (3310 + 24 * e.steps) 8000000

variable {e : Expression} {z w : Zone} {now i j : Instant} {last : Int}

theorem drift_range (e : Expression) : 3310 ≤ e.drift ∧ e.drift ≤ 8000000 := by
  unfold drift
  omega

theorem drift_sum (base : Expression) (d : Duration) :
    (sum base d).drift = min (base.drift + 24) 8000000 := by
  have steps : (sum base d).steps = base.steps + 1 := rfl
  unfold drift
  omega

theorem StaysWithin.mono (h : e.StaysWithin last z now) {last' : Int} (le : last ≤ last') :
    e.StaysWithin last' z now := by
  induction e with
  | literal text l => trivial
  | anchor a => exact ⟨by have := h.1; omega, by have := h.2; omega⟩
  | fromNow d => exact ⟨by have := h.1; omega, by have := h.2; omega⟩
  | sum base d ih =>
    refine ⟨ih h.1, fun i named => ?_⟩
    have short := h.2 i named
    omega

/-- Only the window decides whether a sound expression names an instant. -/
theorem exists_toInstant_iff :
    (∃ i, e.toInstant z now = .ok i) ↔ e.Sound ∧ e.StaysWithin 9999 z now := by
  induction e with
  | literal text l => simp only [toInstant, Sound, StaysWithin, and_true, Literal.exists_toInstant_iff]
  | anchor a =>
    simp only [toInstant, Sound, true_and, Zone.exists_land_iff]
    rfl
  | fromNow d =>
    simp only [toInstant, Sound, true_and, Zone.exists_land_iff]
    rfl
  | sum base d ih =>
    unfold toInstant Sound StaysWithin
    cases value : base.toInstant z now with
    | error failure =>
      rw [value] at ih
      have none_ : ¬ (base.Sound ∧ base.StaysWithin 9999 z now) := fun stays => by
        obtain ⟨i, named⟩ := ih.mpr stays
        cases named
      simp only [reduceCtorEq, exists_false, false_implies, implies_true, and_true, none_]
    | ok i =>
      obtain ⟨sound, stays⟩ := ih.mp ⟨i, value⟩
      simp only [Zone.exists_land_iff, Except.ok.injEq, forall_eq', sound, stays, true_and]
      rfl

/-- In two zones an expression leads to about the same date and time. -/
theorem near_toInstant (hz : z.NearUtc) (hw : w.NearUtc) (named : e.toInstant z now = .ok i)
    (named' : e.toInstant w now = .ok j) : (z.dateTime i).Near e.drift (w.dateTime j) := by
  have present := hz.near_dateTime hw now
  have valid := z.valid_dateTime now
  have valid' := w.valid_dateTime now
  have range := e.drift_range
  induction e generalizing i j with
  | literal text l => exact (Literal.near_toInstant hz hw named named').mono (by omega)
  | anchor a =>
    obtain ⟨-, rfl⟩ := Zone.land_ok_iff.mp named
    obtain ⟨-, rfl⟩ := Zone.land_ok_iff.mp named'
    have landed := hz.near_instants hw (a.valid_resolve valid z) (a.valid_resolve valid' w)
      (a.near_resolve hz hw now)
    exact (landed _ _).mono (by omega)
  | fromNow d =>
    obtain ⟨-, rfl⟩ := Zone.land_ok_iff.mp named
    obtain ⟨-, rfl⟩ := Zone.land_ok_iff.mp named'
    have landed := hz.near_instants hw (d.valid_addTo valid) (d.valid_addTo valid')
      (d.near_addTo present valid valid')
    exact (landed _ _).mono (by omega)
  | sum base d ih =>
    unfold toInstant at named named'
    cases start : base.toInstant z now with
    | error failure =>
      rw [start] at named
      cases named
    | ok b =>
      cases start' : base.toInstant w now with
      | error failure =>
        rw [start'] at named'
        cases named'
      | ok b' =>
        rw [start] at named
        rw [start'] at named'
        obtain ⟨short, rfl⟩ := Zone.land_ok_iff.mp named
        obtain ⟨short', rfl⟩ := Zone.land_ok_iff.mp named'
        have landed := d.valid_addTo (z.valid_dateTime b)
        have landed' := d.valid_addTo (w.valid_dateTime b')
        have moved := d.near_addTo (ih start start' base.drift_range) (z.valid_dateTime b)
          (w.valid_dateTime b')
        have window : (d.addTo (z.dateTime b)).Near 7319635 (d.addTo (w.dateTime b')) := by
          unfold Date.Short at short short'
          exact landed.near_of_years landed' (n := 19998) (by decide) (by omega) (by omega)
        have shown := hz.near_instants hw landed landed' moved
        have shown' := hz.near_instants hw landed landed' window
        rw [drift_sum]
        rcases Int.le_total (base.drift + 24) 8000000 with few | many
        · exact (shown _ _).mono (by omega)
        · exact (shown' _ _).mono (by omega)

theorem near_step (hz : z.NearUtc) (hw : w.NearUtc) (start : e.toInstant z now = .ok i)
    (start' : e.toInstant w now = .ok j) (d : Duration) :
    (d.addTo (z.dateTime i)).Near (e.drift + 19) (d.addTo (w.dateTime j)) :=
  d.near_addTo (near_toInstant hz hw start start') (z.valid_dateTime i) (w.valid_dateTime j)

/-- An expression that names an instant in one zone names one in every other, or is told to come to
a year outside the window there. -/
theorem toInstant_elsewhere (hz : z.NearUtc) (hw : w.NearUtc) (named : e.toInstant z now = .ok i) :
    (∃ j, e.toInstant w now = .ok j) ∨ ∃ year, (year < -9999 ∨ 9999 < year)
      ∧ e.toInstant w now = .error (.yearOutOfRange year) := by
  have present := hz.near_dateTime hw now
  have valid := z.valid_dateTime now
  have valid' := w.valid_dateTime now
  induction e generalizing i with
  | literal text l =>
    have sound : l.Sound := Literal.exists_toInstant_iff.mp ⟨i, named⟩
    exact .inl (Literal.exists_toInstant_iff.mpr sound)
  | anchor a =>
    obtain ⟨short, -⟩ := Zone.land_ok_iff.mp named
    exact Zone.land_near (a.near_resolve hz hw now) (by decide) (a.valid_resolve valid z)
      (a.valid_resolve valid' w) short _
  | fromNow d =>
    obtain ⟨short, -⟩ := Zone.land_ok_iff.mp named
    exact Zone.land_near (d.near_addTo present valid valid') (by decide) (d.valid_addTo valid)
      (d.valid_addTo valid') short _
  | sum base d ih =>
    unfold toInstant at named ⊢
    cases start : base.toInstant z now with
    | error failure =>
      rw [start] at named
      cases named
    | ok b =>
      rw [start] at named
      obtain ⟨short, -⟩ := Zone.land_ok_iff.mp named
      rcases ih start with ⟨b', start'⟩ | ⟨year, outside, failed⟩
      · have range := base.drift_range
        rw [start']
        exact Zone.land_near (near_step hz hw start start' d) (by omega)
          (d.valid_addTo (z.valid_dateTime b)) (d.valid_addTo (w.valid_dateTime b')) short _
      · rw [failed]
        exact .inr ⟨year, outside, rfl⟩

/-- An expression that keeps some years away from the ends of the window in one zone stays within it
in every other. Each step can bring the zones a little further apart. -/
theorem staysWithin_elsewhere (hz : z.NearUtc) (hw : w.NearUtc) (sound : e.Sound)
    (stays : e.StaysWithin (9980 - e.steps) z now) : e.StaysWithin 9999 w now := by
  have present := hz.near_dateTime hw now
  have valid := z.valid_dateTime now
  have valid' := w.valid_dateTime now
  induction e with
  | literal text l => trivial
  | anchor a =>
    have years := (a.near_resolve hz hw now).year (a.valid_resolve valid z)
      (a.valid_resolve valid' w) (by decide)
    obtain ⟨low, high⟩ := stays
    exact ⟨by omega, by omega⟩
  | fromNow d =>
    have years := (d.near_addTo present valid valid').year (d.valid_addTo valid)
      (d.valid_addTo valid') (by decide)
    obtain ⟨low, high⟩ := stays
    exact ⟨by omega, by omega⟩
  | sum base d ih =>
    have steps : (sum base d).steps = base.steps + 1 := rfl
    have before : base.StaysWithin (9980 - base.steps) z now := stays.1.mono (by omega)
    refine ⟨ih sound before, fun b' start' => ?_⟩
    obtain ⟨b, start⟩ : ∃ b, base.toInstant z now = .ok b :=
      exists_toInstant_iff.mpr ⟨sound, before.mono (by omega)⟩
    have few : base.drift ≤ 3310 + 24 * base.steps := Int.min_le_left _ _
    have range := base.drift_range
    have years := (near_step hz hw start start' d).year (d.valid_addTo (z.valid_dateTime b))
      (d.valid_addTo (w.valid_dateTime b')) (by omega)
    have short := stays.2 b start
    omega

end Expression

/-- Settings that are accepted have a zone, and without a pinned present a context. What a present
is pinned to names an instant in UTC, but the context takes it in the zone of the settings: there is
one just where every step stays in the window there as well, which it does if it keeps some years
away from the ends in UTC. Otherwise a year outside the window is told. -/
theorem Draft.context_of_settings {d : Draft} {now : Instant} {s : Settings}
    (made : d.settings now = .ok s) :
    ∃ zone, Zone.resolve s.zone = .ok zone
      ∧ (s.pinnedNow = none → s.context now = .ok ⟨zone, none⟩)
      ∧ ∀ text, s.pinnedNow = some text →
        ∃ e, Expression.read (trimSymbols text.symbols) = .ok e
          ∧ e.StaysWithin 9999 .utc now
          ∧ ((∃ i, s.context now = .ok ⟨zone, some i⟩) ↔ e.StaysWithin 9999 zone now)
          ∧ (e.StaysWithin (9980 - e.steps) .utc now → e.StaysWithin 9999 zone now)
          ∧ (¬ e.StaysWithin 9999 zone now → ∃ year, (year < -9999 ∨ 9999 < year)
            ∧ s.context now = .error (.yearOutOfRange year)) := by
  obtain ⟨⟨zone, found⟩, -, expressions⟩ := Settings.accepted_iff.mp (accepted_of_settings made).1
  have near := Zone.nearUtc_of_resolve found
  refine ⟨zone, found, fun free => ?_, fun text pinned => ?_⟩
  · unfold Settings.context
    rw [found, free]
  obtain ⟨-, i, named⟩ := expressions text pinned
  obtain ⟨filled, e, read, utc⟩ := evaluate_ok_iff.mp named
  obtain ⟨sound, stays⟩ := Expression.exists_toInstant_iff.mp ⟨i, utc⟩
  have context : s.context now
      = (e.toInstant zone now).map fun i => (⟨zone, some i⟩ : Context) := by
    unfold Settings.context
    rw [found, pinned]
    dsimp only
    rw [evaluate_some filled, read]
    dsimp only [Except.bind]
    cases e.toInstant zone now <;> rfl
  have here : (∃ i, s.context now = .ok ⟨zone, some i⟩) ↔ e.StaysWithin 9999 zone now := by
    rw [context, ← and_iff_right (b := e.StaysWithin 9999 zone now) sound,
      ← Expression.exists_toInstant_iff]
    cases e.toInstant zone now <;> simp [Except.map]
  refine ⟨e, read, stays, here, Expression.staysWithin_elsewhere Zone.nearUtc_utc near sound,
    fun leaves => ?_⟩
  rcases Expression.toInstant_elsewhere Zone.nearUtc_utc near utc with ⟨j, there⟩ | told
  · exact absurd (Expression.exists_toInstant_iff.mp ⟨j, there⟩).2 leaves
  · obtain ⟨year, outside, failed⟩ := told
    exact ⟨year, outside, by rw [context, failed]; rfl⟩

theorem Draft.context_of_settings_morning :
    (Draft.ofSettings ⟨"+03:00", "en", some "10:00"⟩).settings ⟨0⟩
        = .ok ⟨"+03:00", "en", some "10:00"⟩
      ∧ ∃ i, Settings.context ⟨"+03:00", "en", some "10:00"⟩ ⟨0⟩ = .ok ⟨.atOffset 10800, some i⟩ := by
  have literal : Literal.read? ((trimSymbols (Text.ofString "10:00").symbols).map Symbol.reading)
      = some (.timeOfDay ⟨10, 0, 0, 0⟩) := by decide +kernel
  have zone : Zone.resolve "+03:00" = .ok (.atOffset 10800) := by decide +kernel
  have named : evaluate (some "10:00") .utc ⟨0⟩ = .ok ⟨36000000⟩ := by
    rw [evaluate_literal (by decide) literal]
    rfl
  have made : (Draft.ofSettings ⟨"+03:00", "en", some "10:00"⟩).settings ⟨0⟩
      = .ok ⟨"+03:00", "en", some "10:00"⟩ := by
    rw [Draft.settings_ofSettings, Settings.accepted_iff]
    refine ⟨⟨_, zone⟩, by decide, fun text same => ?_⟩
    cases same
    exact ⟨by decide, _, named⟩
  refine ⟨made, ?_⟩
  obtain ⟨found, resolved, -, pinned⟩ := context_of_settings made
  cases zone.symm.trans resolved
  obtain ⟨e, read, -, usable, -⟩ := pinned _ rfl
  rw [Expression.read_literal literal] at read
  cases read
  exact usable.mpr trivial

/-- An hour before the last hour of 9999 in UTC is still 9999, but the step starts in 10000 on
clocks three hours ahead. -/
theorem Settings.context_outside_window :
    (Draft.ofSettings ⟨"+03:00", "en", some "9999-12-31T23:00:00Z - 1h"⟩).settings ⟨0⟩
        = .ok ⟨"+03:00", "en", some "9999-12-31T23:00:00Z - 1h"⟩
      ∧ Settings.context ⟨"+03:00", "en", some "9999-12-31T23:00:00Z - 1h"⟩ ⟨0⟩
        = .error (.yearOutOfRange 10000) := by
  obtain ⟨whole, hw⟩ :
      ∃ whole, trimSymbols (Text.ofString "9999-12-31T23:00:00Z - 1h").symbols = whole := ⟨_, rfl⟩
  obtain ⟨left, hl⟩ : ∃ left, (Text.ofString "9999-12-31T23:00:00Z").symbols = left := ⟨_, rfl⟩
  have literal : Literal.read? (whole.map Symbol.reading) = none := by
    rw [← hw]
    decide +kernel
  have split : splitSum? whole = some ⟨left, '-', (Text.ofString "1h").symbols⟩ := by
    rw [← hw, ← hl]
    decide +kernel
  have right : Duration.read (Text.ofString "1h").symbols = .ok ⟨1, .hour⟩ := by rfl
  have base : Literal.read? (left.map Symbol.reading)
      = some (.instant ⟨⟨9999, 12, 31⟩, ⟨23, 0, 0, 0⟩⟩ ⟨false, 0, 0, 0⟩) := by
    rw [← hl]
    decide +kernel
  have filled : trimSymbols (Text.ofString "9999-12-31T23:00:00Z - 1h").symbols ≠ [] := by
    decide +kernel
  have read := Expression.read_sum literal split right
  rw [Expression.read_literal base] at read
  have value (zone : Zone) : evaluate (some "9999-12-31T23:00:00Z - 1h") zone ⟨0⟩
      = zone.land ((zone.dateTime ⟨253402297200000⟩).plus (-1) .hour)
        (zone.offsetAt ⟨253402297200000⟩) := by
    rw [evaluate_some filled, hw, read]
    rfl
  have zone : Zone.resolve "+03:00" = .ok (.atOffset 10800) := by decide +kernel
  constructor
  · rw [Draft.settings_ofSettings, Settings.accepted_iff]
    refine ⟨⟨_, zone⟩, by decide, fun text same => ?_⟩
    cases same
    exact ⟨by decide +kernel, _, value .utc⟩
  · unfold Settings.context
    rw [zone]
    dsimp only
    rw [value]
    rfl

end Almanac
