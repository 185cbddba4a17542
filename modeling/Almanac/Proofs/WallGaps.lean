import Almanac.Proofs.SteadyOffsets

namespace Almanac

namespace ZoneRules

variable {z : ZoneRules} {wall : Int}

theorem mem_offsetsAtWall {offset : Int} :
    offset ∈ z.offsetsAtWall wall ↔ z.offsetAt (wall - offset) = offset := by
  unfold offsetsAtWall
  rw [List.mem_filter, decide_eq_true_eq]
  constructor
  · exact And.right
  · intro same
    refine ⟨?_, same⟩
    rw [← same]
    exact z.offsetAt_mem_offsets _

theorem offsetAt_mem_offsetsAtWall {second : Int} (shown : second + z.offsetAt second = wall) :
    z.offsetAt second ∈ z.offsetsAtWall wall := by
  rw [mem_offsetsAtWall, ← shown, Int.add_sub_cancel]

theorem largest_spec (first : Int) (rest : List Int) :
    largest first rest ∈ first :: rest ∧ ∀ x ∈ first :: rest, x ≤ largest first rest := by
  induction rest generalizing first with
  | nil =>
    simp [largest]
  | cons second rest ih =>
    by_cases lt : first < second
    · have step : largest first (second :: rest) = largest second rest := by simp [largest, lt]
      obtain ⟨mem, le⟩ := ih second
      rw [step]
      refine ⟨List.mem_cons_of_mem first mem, List.forall_mem_cons.mpr ⟨?_, le⟩⟩
      have := le second List.mem_cons_self
      omega
    · have step : largest first (second :: rest) = largest first rest := by simp [largest, lt]
      obtain ⟨mem, le⟩ := ih first
      obtain ⟨head, tail⟩ := List.forall_mem_cons.mp le
      rw [step]
      refine ⟨?_, List.forall_mem_cons.mpr ⟨head, List.forall_mem_cons.mpr ⟨by omega, tail⟩⟩⟩
      rcases List.mem_cons.mp mem with same | mem
      · rw [same]
        exact List.mem_cons_self
      · exact List.mem_cons_of_mem first (List.mem_cons_of_mem second mem)

theorem offsetAtWall_mem_offsets (z : ZoneRules) (wall : Int) : z.offsetAtWall wall ∈ z.offsets := by
  unfold offsetAtWall
  split
  next first rest eq =>
    have mem := (largest_spec first rest).1
    rw [← eq, mem_offsetsAtWall] at mem
    rw [← mem]
    exact z.offsetAt_mem_offsets _
  · exact z.offsetAt_mem_offsets _

theorem WithinDay.offsetAtWall_range (h : z.WithinDay) (wall : Int) :
    -86400 < z.offsetAtWall wall ∧ z.offsetAtWall wall < 86400 :=
  h _ (z.offsetAtWall_mem_offsets wall)

/-- Clocks show a wall second just where they show it under the offset that is taken for it. -/
theorem offsetsAtWall_ne_nil_iff (z : ZoneRules) (wall : Int) :
    z.offsetsAtWall wall ≠ [] ↔ z.offsetAt (wall - z.offsetAtWall wall) = z.offsetAtWall wall := by
  rw [← mem_offsetsAtWall]
  constructor
  · intro seen
    obtain ⟨first, rest, eq⟩ := List.exists_cons_of_ne_nil seen
    have largest : z.offsetAtWall wall = largest first rest := by
      unfold offsetAtWall
      rw [eq]
    rw [largest, eq]
    exact (largest_spec first rest).1
  · exact List.ne_nil_of_mem

theorem offsetAtWall_of_unique {offset : Int} (shown : z.offsetAt (wall - offset) = offset)
    (once : ∀ other, z.offsetAt (wall - other) = other → other = offset) :
    z.offsetAtWall wall = offset := by
  have mem := mem_offsetsAtWall.mpr shown
  unfold offsetAtWall
  split
  next first rest eq =>
    have largest_mem := (largest_spec first rest).1
    rw [← eq] at largest_mem
    exact once _ (mem_offsetsAtWall.mp largest_mem)
  next eq =>
    rw [eq] at mem
    exact absurd mem List.not_mem_nil

/-- Clocks are set forward at an epoch second, from one offset to another, and both are in effect
for some days. -/
structure Jump (z : ZoneRules) (second before after : Int) : Prop where
  forward : before < after
  day : after - before ≤ secondsPerDay
  earlier : ∀ s, second - fiveDays ≤ s → s < second → z.offsetAt s = before
  later : ∀ s, second ≤ s → s < second + fiveDays → z.offsetAt s = after

/-- Steady offsets only change five days after and before they do. -/
theorem Steady.jump (steady : z.Steady) {second : Int}
    (forward : z.offsetAt (second - 1) < z.offsetAt second) :
    z.Jump second (z.offsetAt (second - 1)) (z.offsetAt second) := by
  obtain ⟨first, next, lasts, low, high, jump⟩ := steady second
  obtain ⟨first', next', lasts', low', high', -⟩ := steady (second - 1)
  have start : first = second := by
    by_contra other
    have := lasts.same second low high
    have := lasts.same (second - 1) (by omega) (by omega)
    omega
  have stop : next' = second := by
    by_contra other
    have := lasts'.same second (by omega) (by omega)
    have := lasts'.same (second - 1) low' high'
    omega
  subst start stop
  have long := lasts.long
  have long' := lasts'.long
  refine ⟨forward, jump, fun s hs hs' => ?_, fun s hs hs' => lasts.same s hs (by omega)⟩
  rw [lasts'.same s (by omega) hs', lasts'.same _ low' high']

/-- Between a second that comes too early for a wall second and one that comes too late, the clocks
show the wall second or jump over it. -/
theorem exists_crossing {low : Int} (early : low + z.offsetAt low < wall)
    (unseen : ∀ second, second + z.offsetAt second ≠ wall) (n : Nat)
    (late : wall < low + n + z.offsetAt (low + n)) :
    ∃ second, second - 1 + z.offsetAt (second - 1) < wall ∧ wall < second + z.offsetAt second := by
  induction n with
  | zero =>
    rw [Int.natCast_zero, Int.add_zero] at late
    omega
  | succ n ih =>
    -- If the clocks are still ahead a second earlier, the crossing lies before it.
    have other := unseen (low + n)
    by_cases before : wall < low + n + z.offsetAt (low + n)
    · exact ih before
    · rw [show low + ((n + 1 : Nat) : Int) = low + n + 1 by omega] at late
      exact ⟨low + n + 1, by rw [Int.add_sub_cancel]; omega, late⟩

namespace Regular

/-- The clocks jump over a wall second that they never show. -/
theorem exists_jump (h : z.Regular) (unseen : z.offsetsAtWall wall = []) :
    ∃ second before after, z.Jump second before after ∧ second + before ≤ wall
      ∧ wall < second + after := by
  have never : ∀ second, second + z.offsetAt second ≠ wall := by
    intro second shown
    have mem := offsetAt_mem_offsetsAtWall shown
    rw [unseen] at mem
    exact absurd mem List.not_mem_nil
  have low := h.offset_range (wall - 54001)
  have high := h.offset_range (wall - 54001 + (108002 : Nat))
  obtain ⟨second, before, after⟩ := @exists_crossing z wall (wall - 54001) (by omega) never
    108002 (by omega)
  have forward : z.offsetAt (second - 1) < z.offsetAt second := by omega
  exact ⟨second, _, _, h.steady.jump forward, by omega, after⟩

variable {second before after : Int}

/-- Within two days of a jump the clocks show times under one of the two offsets around it. -/
theorem offset_near (h : z.Regular) (jump : z.Jump second before after) {offset : Int}
    (shown : z.offsetAt (wall - offset) = offset) (low : second + before - 2 * secondsPerDay ≤ wall)
    (high : wall < second + after + 2 * secondsPerDay) :
    (wall - offset < second ∧ offset = before) ∨ (second ≤ wall - offset ∧ offset = after) := by
  have old := jump.earlier (second - 1) (by unfold fiveDays; omega) (by omega)
  have new := jump.later second (by omega) (by unfold fiveDays; omega)
  have oldRange := h.offset_range (second - 1)
  have newRange := h.offset_range second
  have range := h.offset_range (wall - offset)
  rw [old] at oldRange
  rw [new] at newRange
  rw [shown] at range
  unfold secondsPerDay at low high
  by_cases side : wall - offset < second
  · have := jump.earlier _ (by unfold fiveDays; omega) side
    exact .inl ⟨side, by omega⟩
  · have := jump.later _ (Int.not_lt.mp side) (by unfold fiveDays; omega)
    exact .inr ⟨Int.not_lt.mp side, by omega⟩

theorem offsetAtWall_before (h : z.Regular) (jump : z.Jump second before after)
    (low : second + before - 2 * secondsPerDay ≤ wall) (high : wall < second + before) :
    z.offsetAtWall wall = before := by
  have forward := jump.forward
  unfold secondsPerDay at low
  refine offsetAtWall_of_unique (jump.earlier _ ?_ (by omega)) fun offset shown => ?_
  · unfold fiveDays
    omega
  · rcases h.offset_near jump shown low (by unfold secondsPerDay; omega) with side | side <;> omega

theorem offsetAtWall_after (h : z.Regular) (jump : z.Jump second before after)
    (low : second + after ≤ wall) (high : wall < second + after + 2 * secondsPerDay) :
    z.offsetAtWall wall = after := by
  have forward := jump.forward
  unfold secondsPerDay at high
  refine offsetAtWall_of_unique (jump.later _ (by omega) ?_) fun offset shown => ?_
  · unfold fiveDays
    omega
  · rcases h.offset_near jump shown (by unfold secondsPerDay; omega) high with side | side <;> omega

/-- The length of a jump is found from the offsets a day before and a day after it. -/
theorem jumpAround_eq (h : z.Regular) (jump : z.Jump second before after)
    (low : second + before ≤ wall) (high : wall < second + after) :
    z.jumpAround wall = after - before := by
  have forward := jump.forward
  have day := jump.day
  have dayAfter : z.offsetAtWall (wall + secondsPerDay) = after :=
    h.offsetAtWall_after jump (by omega) (by unfold secondsPerDay; omega)
  have dayBefore : z.offsetAtWall (wall - secondsPerDay) = before :=
    h.offsetAtWall_before jump (by unfold secondsPerDay; omega) (by omega)
  unfold jumpAround
  rw [dayAfter, dayBefore]

theorem offsetAtWall_moved (h : z.Regular) (jump : z.Jump second before after)
    (low : second + before ≤ wall) (high : wall < second + after) :
    z.offsetAtWall (wall + (after - before)) = after := by
  have forward := jump.forward
  have day := jump.day
  refine h.offsetAtWall_after jump (by omega) ?_
  unfold secondsPerDay at *
  omega

end Regular

end ZoneRules

end Almanac
