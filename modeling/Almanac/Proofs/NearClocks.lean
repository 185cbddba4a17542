import Almanac.Proofs.NearDates
import Almanac.Proofs.Outcomes

namespace Almanac

theorem Duration.valid_addTo (v : Duration) {c : DateTime} (h : c.Valid) : (v.addTo c).Valid :=
  h.plus v.amount v.unit

theorem Duration.near_addTo (v : Duration) {c d : DateTime} {n : Int} (near : c.Near n d)
    (hc : c.Valid) (hd : d.Valid) : (v.addTo c).Near (n + 19) (v.addTo d) :=
  near.plus hc hd v.amount v.unit

namespace Zone

variable {z w : Zone} {c d : DateTime} {i : Instant} {n : Int}

theorem valid_dateTime (z : Zone) (i : Instant) : (z.dateTime i).Valid :=
  i.valid_dateTime _

/-- The clocks of two zones are at most two days apart. -/
theorem NearUtc.near_dateTime (hz : z.NearUtc) (hw : w.NearUtc) (i : Instant) :
    (z.dateTime i).Near 2 (w.dateTime i) := by
  have range := hz.offsetAt_lt i
  have range' := hw.offsetAt_lt i
  unfold DateTime.Near
  rw [epochMillis_dateTime, epochMillis_dateTime]
  unfold millisPerSecond millisPerDay
  omega

/-- The clocks of a zone show about the date and time for which an instant has been found. -/
theorem NearUtc.near_instant (h : z.NearUtc) (valid : c.Valid) (preferred? : Option Int) :
    (z.dateTime (z.instant c preferred?)).Near 2 c := by
  obtain ⟨offset, found, j, rfl⟩ := h.ordinary.exists_offset valid preferred?
  have range := h.offsetAt_lt j
  have range' := h.offsetAt_lt (c.instant (z.offsetAt j))
  have wall := c.epochMillis_eq (z.offsetAt j)
  rw [found]
  unfold DateTime.Near
  rw [epochMillis_dateTime]
  unfold DateTime.instant millisPerSecond millisPerDay at *
  dsimp only
  omega

theorem NearUtc.near_instants (hz : z.NearUtc) (hw : w.NearUtc) (hc : c.Valid) (hd : d.Valid)
    (near : c.Near n d) (preferred? preferred?' : Option Int) :
    (z.dateTime (z.instant c preferred?)).Near (n + 4) (w.dateTime (w.instant d preferred?')) := by
  have shown := ((hz.near_instant hc preferred?).trans near).trans
    (hw.near_instant hd preferred?').symm
  exact shown.mono (by omega)

theorem land_ok_iff {start : Int} :
    z.land c start = .ok i ↔ c.date.Short ∧ i = z.instant c (some start) := by
  unfold land
  constructor
  · intro landed
    cases within : c.withinYears with
    | error failure =>
      rw [within] at landed
      cases landed
    | ok d =>
      rw [within] at landed
      obtain ⟨short, rfl⟩ := DateTime.short_of_withinYears within
      exact ⟨short, (Except.ok.inj landed).symm⟩
  · rintro ⟨short, rfl⟩
    have within : c.withinYears = .ok c := if_pos short
    rw [within]

theorem exists_land_iff {start : Int} : (∃ i, z.land c start = .ok i) ↔ c.date.Short := by
  constructor
  · rintro ⟨i, landed⟩
    exact (land_ok_iff.mp landed).1
  · intro short
    exact ⟨_, land_ok_iff.mpr ⟨short, rfl⟩⟩

/-- Unless a year is too long to be told, a date and time that is not landed on is told to be in a
year outside the window. -/
theorem land_cases (few : c.date.year.natAbs < smallestLong * 10) (start : Int) :
    (∃ i, z.land c start = .ok i)
      ∨ ¬ c.date.Short ∧ z.land c start = .error (.yearOutOfRange c.date.year) := by
  have told := told_land (z := z) few start
  by_cases short : c.date.Short
  · exact .inl (exists_land_iff.mpr short)
  · right
    have outside : ¬ (-9999 ≤ c.date.year ∧ c.date.year ≤ 9999) := short
    refine ⟨short, ?_⟩
    unfold land DateTime.withinYears at told ⊢
    rw [if_neg outside] at told ⊢
    by_cases long : TooLong c.date.year
    · rw [if_pos long] at told
      cases told
    · rw [if_neg long]

/-- Near a date and time of the window there is another one that is landed on, or told to be in a
year outside. -/
theorem land_near (near : c.Near n d) (few : 0 ≤ n ∧ n ≤ 9000000) (hc : c.Valid) (hd : d.Valid)
    (short : c.date.Short) (start : Int) :
    (∃ i, w.land d start = .ok i) ∨ ∃ year, (year < -9999 ∨ 9999 < year)
      ∧ w.land d start = .error (.yearOutOfRange year) := by
  have years := near.year hc hd few.1
  have large := le_smallestLong
  unfold Date.Short at short
  have told : d.date.year.natAbs < smallestLong * 10 := by omega
  refine (land_cases told start).imp_right fun ⟨outside, failed⟩ => ⟨_, ?_, failed⟩
  unfold Date.Short at outside
  omega

end Zone

namespace Literal

variable {l : Literal} {text : Text} {z w : Zone} {now i j : Instant}

/-- A literal whose fields are in range. It names an instant in every zone. -/
def Sound : Literal → Prop
  | instant c offset => c.Valid ∧ offset.total?.isSome
  | dateTime c => c.Valid
  | timeOfDay time => time.Valid
  | wideYear => False

theorem exists_toInstant_iff : (∃ i, l.toInstant text z now = .ok i) ↔ l.Sound := by
  unfold toInstant Sound
  cases l with
  | instant c offset =>
    dsimp only
    rcases c.checked_cases with ⟨valid, passed⟩ | ⟨invalid, fault, failed⟩
    · rw [passed]
      cases offset.total? <;> simp [valid]
    · rw [failed]
      simp [invalid]
  | dateTime c =>
    dsimp only
    rcases c.checked_cases with ⟨valid, passed⟩ | ⟨invalid, fault, failed⟩
    · rw [passed]
      simp [valid]
    · rw [failed]
      simp [invalid]
  | timeOfDay time =>
    have date : (z.dateTime now).date.Valid := (z.valid_dateTime now).1
    have valid_iff : ({ z.dateTime now with time := time } : DateTime).Valid ↔ time.Valid :=
      and_iff_right date
    dsimp only [DateTime.atTime]
    rw [← valid_iff]
    rcases ({ z.dateTime now with time := time } : DateTime).checked_cases with
      ⟨valid, passed⟩ | ⟨invalid, fault, failed⟩
    · rw [passed]
      simp [valid]
    · rw [failed]
      simp [invalid]
  | wideYear => simp

/-- In two zones a literal names instants that are shown at about the same date and time. -/
theorem near_toInstant (hz : z.NearUtc) (hw : w.NearUtc) (named : l.toInstant text z now = .ok i)
    (named' : l.toInstant text w now = .ok j) : (z.dateTime i).Near 7 (w.dateTime j) := by
  have sound : l.Sound := exists_toInstant_iff.mp ⟨i, named⟩
  unfold toInstant at named named'
  cases l with
  | instant c offset =>
    dsimp only at named named'
    rw [DateTime.checked_of_valid sound.1] at named named'
    cases total : offset.total? with
    | none =>
      rw [total] at named
      cases named
    | some seconds =>
      rw [total] at named named'
      cases named
      cases named'
      exact (hz.near_dateTime hw _).mono (by decide)
  | dateTime c =>
    dsimp only at named named'
    rw [DateTime.checked_of_valid sound] at named named'
    cases named
    cases named'
    have same : c.Near 0 c := by simp [DateTime.Near]
    exact (hz.near_instants hw sound sound same _ _).mono (by decide)
  | timeOfDay time =>
    have valid : ({ z.dateTime now with time := time } : DateTime).Valid :=
      ⟨(z.valid_dateTime now).1, sound⟩
    have valid' : ({ w.dateTime now with time := time } : DateTime).Valid :=
      ⟨(w.valid_dateTime now).1, sound⟩
    dsimp only [DateTime.atTime] at named named'
    rw [DateTime.checked_of_valid valid] at named
    rw [DateTime.checked_of_valid valid'] at named'
    cases named
    cases named'
    have near : ({ z.dateTime now with time := time } : DateTime).Near 3
        { w.dateTime now with time := time } := by
      have present := hz.near_dateTime hw now
      obtain ⟨low, high⟩ := (z.valid_dateTime now).2.millis_range
      obtain ⟨low', high'⟩ := (w.valid_dateTime now).2.millis_range
      unfold DateTime.Near at *
      rw [DateTime.epochMillis_zero, DateTime.epochMillis_zero] at present ⊢
      unfold millisPerDay at *
      dsimp only
      omega
    exact (hz.near_instants hw valid valid' near _ _).mono (by decide)
  | wideYear => cases named

end Literal

/-- In two zones an anchor lies in dates that are some years apart at most. -/
theorem Anchor.near_resolve {z w : Zone} (hz : z.NearUtc) (hw : w.NearUtc) (a : Anchor)
    (now : Instant) :
    (a.resolve (z.dateTime now) z).Near 3300 (a.resolve (w.dateTime now) w) := by
  have present := z.valid_dateTime now
  have present' := w.valid_dateTime now
  have ends {i : Instant} (always : ∀ present zone, a.resolve present zone = zone.dateTime i) :
      (a.resolve (z.dateTime now) z).Near 3300 (a.resolve (w.dateTime now) w) := by
    rw [always, always]
    exact (hz.near_dateTime hw i).mono (by decide)
  rcases a.resolve_cases present z with near | ⟨i, -, always⟩
  · rcases a.resolve_cases present' w with near' | ⟨i, -, always⟩
    · have years := (hz.near_dateTime hw now).year present present' (by decide)
      have dates := (a.valid_resolve present z).near_of_years (a.valid_resolve present' w) (n := 8)
        (by decide) (by omega) (by omega)
      exact dates.mono (by decide)
    · exact ends always
  · exact ends always

end Almanac
