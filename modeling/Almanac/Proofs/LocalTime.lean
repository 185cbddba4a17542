import Almanac.Proofs.LookupRange

namespace Almanac

namespace Zone

/-- What a zone's clocks show just before an instant. -/
def dateTimeBefore (z : Zone) (i : Instant) : DateTime :=
  z.dateTime ⟨i.epochMillis - 1⟩

/-- How many seconds a zone's clocks are set forward at an instant. -/
def jumpAt (z : Zone) (i : Instant) : Int :=
  z.offsetAt i - z.offsetAt ⟨i.epochMillis - 1⟩

/-- At an instant a zone's clocks jump over a date and time. -/
def JumpsOver (z : Zone) (i : Instant) (c : DateTime) : Prop :=
  (z.dateTimeBefore i).epochMillis 0 < c.epochMillis 0
    ∧ c.epochMillis 0 < (z.dateTime i).epochMillis 0

/-- The instant that is meant by a date and time in a zone: the one with the preferred offset, or
else the first one at which the clocks show it. A date and time that they jump over is moved forward
by the length of the jump. -/
structure Answers (z : Zone) (c : DateTime) (preferred? : Option Int) (r : Instant) : Prop where
  preferred : ∀ i, z.dateTime i = c → preferred? = some (z.offsetAt i) → r = i
  earliest : (∃ i, z.dateTime i = c) →
    (∀ i, z.dateTime i = c → preferred? ≠ some (z.offsetAt i)) →
    z.dateTime r = c ∧ ∀ i, z.dateTime i = c → r.epochMillis ≤ i.epochMillis
  gap : (∀ i, z.dateTime i ≠ c) →
    (∃ i, z.JumpsOver i c) ∧ ∀ i, z.JumpsOver i c → z.dateTime r = c.plus (z.jumpAt i) .second

theorem dateTime_eq_iff {z : Zone} {i : Instant} {c : DateTime} (h : c.Valid) :
    z.dateTime i = c ↔ i = c.instant (z.offsetAt i) :=
  Instant.dateTime_eq_iff h

theorem epochMillis_dateTime (z : Zone) (i : Instant) :
    (z.dateTime i).epochMillis 0 = i.epochMillis + z.offsetAt i * millisPerSecond := by
  have millis := i.epochMillis_shown (z.offsetAt i)
  have wall := (z.dateTime i).epochMillis_eq (z.offsetAt i)
  unfold dateTime millisPerSecond at *
  omega

/-- A date and time that the clocks jump over is read by the clock before the jump. -/
theorem instant_of_jump {z : Zone} {rules : ZoneRules} (clock : z.clock = .ruled rules)
    (regular : rules.Regular) {c : DateTime} {second before after : Int}
    (unseen : rules.offsetsAtWall c.lookup.wallSecond = [])
    (jump : rules.Jump second before after) (low : second + before ≤ c.lookup.wallSecond)
    (high : c.lookup.wallSecond < second + after) (preferred? : Option Int) :
    z.instant c preferred? = c.instant before := by
  have length := regular.jumpAround_eq jump low high
  have moved := regular.offsetAtWall_moved jump low high
  have wall := c.epochMillis_eq before
  have wall' := c.epochMillis_eq after
  unfold instant
  rw [clock]
  dsimp only
  rw [unseen]
  dsimp only
  rw [length, moved]
  refine congrArg Instant.mk ?_
  unfold millisPerSecond
  omega

namespace Tracks

variable {z : Zone} {rules : ZoneRules} {c : DateTime} {i : Instant} {offset : Int}

theorem offset_range (h : z.Tracks rules c) (i : Instant) :
    -54000 ≤ z.offsetAt i ∧ z.offsetAt i ≤ 54000 := by
  unfold offsetAt
  rw [h.clock]
  exact h.regular.offset_range _

theorem offsetAt_instant (h : z.Tracks rules c) {d : DateTime} {moved : Int}
    (hd : d.wallSecond = c.wallSecond + moved) (low : -200000 ≤ moved - offset)
    (high : moved - offset ≤ 200000) :
    z.offsetAt (d.instant offset) = rules.offsetAt (c.lookup.wallSecond + moved - offset) := by
  have second := d.epochSecond_instant offset
  rw [h.near _ (by omega) (by omega), second, hd]
  congr 1
  omega

/-- The offset under which the clocks show a date and time is one of those for its wall second. -/
theorem offset_mem (h : z.Tracks rules c) (shown : z.dateTime i = c) :
    z.offsetAt i ∈ rules.offsetsAtWall c.lookup.wallSecond := by
  have eq := (dateTime_eq_iff h.valid).mp shown
  have range := h.offset_range i
  obtain ⟨offset, ho⟩ : ∃ offset, z.offsetAt i = offset := ⟨_, rfl⟩
  rw [ho] at eq range ⊢
  have near : z.offsetAt (c.instant offset) = rules.offsetAt (c.lookup.wallSecond + 0 - offset) :=
    h.offsetAt_instant (Int.add_zero c.wallSecond).symm (by omega) (by omega)
  rw [← eq, ho, Int.add_zero] at near
  exact ZoneRules.mem_offsetsAtWall.mpr near.symm

theorem offsetAt_of_mem (h : z.Tracks rules c)
    (mem : offset ∈ rules.offsetsAtWall c.lookup.wallSecond) :
    z.offsetAt (c.instant offset) = offset := by
  have shown := ZoneRules.mem_offsetsAtWall.mp mem
  have range := h.regular.offset_range (c.lookup.wallSecond - offset)
  rw [shown] at range
  rw [h.offsetAt_instant (Int.add_zero c.wallSecond).symm (by omega) (by omega), Int.add_zero, shown]

theorem dateTime_of_mem (h : z.Tracks rules c)
    (mem : offset ∈ rules.offsetsAtWall c.lookup.wallSecond) : z.dateTime (c.instant offset) = c := by
  rw [dateTime_eq_iff h.valid, h.offsetAt_of_mem mem]

theorem offsetsAtWall_of_unseen (h : z.Tracks rules c) (unseen : ∀ i, z.dateTime i ≠ c) :
    rules.offsetsAtWall c.lookup.wallSecond = [] :=
  List.eq_nil_iff_forall_not_mem.mpr fun _ mem => unseen _ (h.dateTime_of_mem mem)

/-- A date and time that the clocks show is given the preferred offset, or else the largest. -/
theorem instant_of_mem (h : z.Tracks rules c) (mem : offset ∈ rules.offsetsAtWall c.lookup.wallSecond)
    (preferred? : Option Int) :
    ∃ o ∈ rules.offsetsAtWall c.lookup.wallSecond, z.instant c preferred? = c.instant o
      ∧ ((preferred? = some o) ∨
        ((∀ p ∈ rules.offsetsAtWall c.lookup.wallSecond, preferred? ≠ some p)
          ∧ ∀ p ∈ rules.offsetsAtWall c.lookup.wallSecond, p ≤ o)) := by
  unfold instant
  rw [h.clock]
  dsimp only
  cases offsets : rules.offsetsAtWall c.lookup.wallSecond with
  | nil =>
    rw [offsets] at mem
    exact absurd mem List.not_mem_nil
  | cons first rest =>
    obtain ⟨largest_mem, le⟩ := ZoneRules.largest_spec first rest
    cases preferred? with
    | none => exact ⟨_, largest_mem, rfl, .inr ⟨fun _ _ => by simp, le⟩⟩
    | some preferred =>
      by_cases listed : preferred ∈ first :: rest
      · exact ⟨preferred, listed, by simp only [if_pos listed], .inl rfl⟩
      · refine ⟨_, largest_mem, by simp only [if_neg listed], .inr ⟨fun p hp same => ?_, le⟩⟩
        cases same
        exact listed hp

variable {second before after : Int}

theorem jumpsOver_of_jump (h : z.Tracks rules c) (jump : rules.Jump second before after)
    (low : second + before ≤ c.lookup.wallSecond) (high : c.lookup.wallSecond < second + after) :
    ∃ i, z.JumpsOver i c := by
  have old := jump.earlier (second - 1) (by unfold fiveDays; omega) (by omega)
  have new := jump.later second (by omega) (by unfold fiveDays; omega)
  have oldRange := h.regular.offset_range (second - 1)
  have newRange := h.regular.offset_range second
  rw [old] at oldRange
  rw [new] at newRange
  obtain ⟨start, hs⟩ : ∃ start, start = c.wallSecond + (second - c.lookup.wallSecond) := ⟨_, rfl⟩
  have at_start : Instant.epochSecond ⟨start * 1000⟩ = start := by
    simp only [Instant.epochSecond, millisPerSecond]
    omega
  have before_start : Instant.epochSecond ⟨start * 1000 - 1⟩ = start - 1 := by
    simp only [Instant.epochSecond, millisPerSecond]
    omega
  have offset : z.offsetAt ⟨start * 1000⟩ = after := by
    rw [h.near _ (by omega) (by omega), at_start, ← new]
    congr 1
    omega
  have offset' : z.offsetAt ⟨start * 1000 - 1⟩ = before := by
    rw [h.near _ (by omega) (by omega), before_start, ← old]
    congr 1
    omega
  have wall := c.wallSecond_eq
  refine ⟨⟨start * 1000⟩, ?_⟩
  unfold JumpsOver dateTimeBefore
  rw [epochMillis_dateTime, epochMillis_dateTime, offset, offset']
  unfold millisPerSecond at *
  dsimp only
  omega

theorem jump_of_jumpsOver (h : z.Tracks rules c) (jumps : z.JumpsOver i c) :
    ∃ second, rules.Jump second (z.offsetAt ⟨i.epochMillis - 1⟩) (z.offsetAt i)
      ∧ second + z.offsetAt ⟨i.epochMillis - 1⟩ ≤ c.lookup.wallSecond
      ∧ c.lookup.wallSecond < second + z.offsetAt i := by
  have range := h.offset_range i
  have range' := h.offset_range ⟨i.epochMillis - 1⟩
  have wall := c.wallSecond_eq
  obtain ⟨low, high⟩ := jumps
  unfold dateTimeBefore at low
  rw [epochMillis_dateTime] at low high
  dsimp only at low
  have now : i.epochSecond = i.epochMillis / millisPerSecond := rfl
  have past : Instant.epochSecond ⟨i.epochMillis - 1⟩ = (i.epochMillis - 1) / millisPerSecond := rfl
  unfold millisPerSecond at *
  have new := h.near i (by omega) (by omega)
  have old := h.near ⟨i.epochMillis - 1⟩ (by omega) (by omega)
  -- Offsets only change with a new second.
  have start : Instant.epochSecond ⟨i.epochMillis - 1⟩ = i.epochSecond - 1 := by
    by_contra other
    rw [show Instant.epochSecond ⟨i.epochMillis - 1⟩ = i.epochSecond by omega, ← new] at old
    omega
  rw [start, show c.lookup.wallSecond + (i.epochSecond - 1 - c.wallSecond)
    = c.lookup.wallSecond + (i.epochSecond - c.wallSecond) - 1 by omega] at old
  have jump := @ZoneRules.Steady.jump rules h.regular.steady
    (c.lookup.wallSecond + (i.epochSecond - c.wallSecond)) (by omega)
  rw [← new, ← old] at jump
  exact ⟨_, jump, by omega, by omega⟩

/-- The clocks show a date and time that is moved over a jump at one instant. -/
theorem dateTime_eq_plus_iff (h : z.Tracks rules c) (jump : rules.Jump second before after)
    (low : second + before ≤ c.lookup.wallSecond) (high : c.lookup.wallSecond < second + after) :
    z.dateTime i = c.plus (after - before) .second ↔ i = c.instant before := by
  obtain ⟨d, hd⟩ : ∃ d, c.plus (after - before) .second = d := ⟨_, rfl⟩
  have valid : d.Valid := by
    rw [← hd]
    exact DateTime.valid_ofEpochMillis _ _
  have millis : d.epochMillis 0 = c.epochMillis 0 + (after - before) * millisPerSecond := by
    rw [← hd]
    exact DateTime.epochMillis_ofEpochMillis _ 0
  have wall : d.wallSecond = c.wallSecond + (after - before) := by
    rw [DateTime.wallSecond_eq, DateTime.wallSecond_eq, millis]
    unfold millisPerSecond
    omega
  have same : d.instant after = c.instant before := by
    have := d.epochMillis_eq after
    have := c.epochMillis_eq before
    refine congrArg Instant.mk ?_
    unfold millisPerSecond at millis
    omega
  have forward := jump.forward
  have day := jump.day
  have newRange := h.regular.offset_range second
  rw [jump.later second (by omega) (by unfold fiveDays; omega)] at newRange
  unfold secondsPerDay at day
  rw [hd, dateTime_eq_iff valid, ← same]
  constructor
  · intro shown
    have range := h.offset_range i
    obtain ⟨offset, ho⟩ : ∃ offset, z.offsetAt i = offset := ⟨_, rfl⟩
    rw [ho] at shown range
    have near : z.offsetAt (d.instant offset)
        = rules.offsetAt (c.lookup.wallSecond + (after - before) - offset) :=
      h.offsetAt_instant wall (by omega) (by omega)
    rw [← shown, ho] at near
    -- The moved time is close to the jump, so only the two offsets around it can show it.
    have sides := h.regular.offset_near jump near.symm (by unfold secondsPerDay; omega)
      (by unfold secondsPerDay; omega)
    have : offset = after := by omega
    rw [shown, this]
  · rintro rfl
    rw [h.offsetAt_instant wall (by omega) (by omega),
      jump.later _ (by omega) (by unfold fiveDays; omega)]

theorem answers (h : z.Tracks rules c) (preferred? : Option Int) :
    z.Answers c preferred? (z.instant c preferred?) := by
  refine ⟨fun i shown same => ?_, fun ⟨i, shown⟩ other => ?_, fun unseen => ?_⟩
  · obtain ⟨o, -, eq, rfl | ⟨none, -⟩⟩ := h.instant_of_mem (h.offset_mem shown) preferred?
    · rw [eq, Option.some.inj same]
      exact ((dateTime_eq_iff h.valid).mp shown).symm
    · exact absurd same (none _ (h.offset_mem shown))
  · obtain ⟨o, mem, eq, same | ⟨-, le⟩⟩ := h.instant_of_mem (h.offset_mem shown) preferred?
    · have := other _ (h.dateTime_of_mem mem)
      rw [h.offsetAt_of_mem mem] at this
      exact absurd same this
    · rw [eq]
      refine ⟨h.dateTime_of_mem mem, fun j hj => ?_⟩
      have first := le _ (h.offset_mem hj)
      rw [(dateTime_eq_iff h.valid).mp hj]
      have wall := c.epochMillis_eq o
      have wall' := c.epochMillis_eq (z.offsetAt j)
      unfold DateTime.instant
      dsimp only
      omega
  · have empty := h.offsetsAtWall_of_unseen unseen
    obtain ⟨second, before, after, jump, low, high⟩ := h.regular.exists_jump empty
    refine ⟨h.jumpsOver_of_jump jump low high, fun i jumps => ?_⟩
    obtain ⟨second', jump', low', high'⟩ := h.jump_of_jumpsOver jumps
    rw [instant_of_jump h.clock h.regular empty jump' low' high']
    exact (h.dateTime_eq_plus_iff jump' low' high').mpr rfl

theorem answers_unique (h : z.Tracks rules c) {preferred? : Option Int} {r r' : Instant}
    (hr : z.Answers c preferred? r) (hr' : z.Answers c preferred? r') : r = r' := by
  by_cases seen : ∃ i, z.dateTime i = c
  · by_cases same : ∃ i, z.dateTime i = c ∧ preferred? = some (z.offsetAt i)
    · obtain ⟨i, shown, same⟩ := same
      rw [hr.preferred i shown same, hr'.preferred i shown same]
    · have other : ∀ i, z.dateTime i = c → preferred? ≠ some (z.offsetAt i) :=
        fun i shown eq => same ⟨i, shown, eq⟩
      obtain ⟨shown, first⟩ := hr.earliest seen other
      obtain ⟨shown', first'⟩ := hr'.earliest seen other
      have le := first r' shown'
      have ge := first' r shown
      exact Instant.eq_iff.mpr (Int.le_antisymm le ge)
  · have unseen : ∀ i, z.dateTime i ≠ c := fun i shown => seen ⟨i, shown⟩
    obtain ⟨⟨i, jumps⟩, moved⟩ := hr.gap unseen
    obtain ⟨second, jump, low, high⟩ := h.jump_of_jumpsOver jumps
    have eq := (h.dateTime_eq_plus_iff jump low high).mp (moved i jumps)
    have eq' := (h.dateTime_eq_plus_iff jump low high).mp ((hr'.gap unseen).2 i jumps)
    rw [eq, eq']

end Tracks

end Zone

end Almanac
