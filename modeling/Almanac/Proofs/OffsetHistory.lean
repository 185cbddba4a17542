import Almanac.Zone.Rules
import Mathlib.Data.List.Induction

namespace Almanac

/-- The offset that changes leave at an epoch second, where `initial` was in effect before them. -/
def lastOffset (second : Int) (changes : List OffsetChange) (initial : Int) : Int :=
  changes.foldl (fun offset c => if c.second ≤ second then c.offset else offset) initial

theorem lastOffset_append (second initial : Int) (xs ys : List OffsetChange) :
    lastOffset second (xs ++ ys) initial = lastOffset second ys (lastOffset second xs initial) :=
  List.foldl_append

theorem lastOffset_of_later {second : Int} {changes : List OffsetChange}
    (later : ∀ c ∈ changes, second < c.second) (initial : Int) :
    lastOffset second changes initial = initial := by
  induction changes with
  | nil => rfl
  | cons c changes ih =>
    have hc := later c List.mem_cons_self
    have rest := ih fun d hd => later d (List.mem_cons_of_mem c hd)
    unfold lastOffset at rest ⊢
    rw [List.foldl_cons, if_neg (by omega), rest]

theorem lastOffset_of_split {second : Int} {c : OffsetChange} {xs ys : List OffsetChange}
    (made : c.second ≤ second) (later : ∀ d ∈ ys, second < d.second) (initial : Int) :
    lastOffset second (xs ++ c :: ys) initial = c.offset := by
  have rest := lastOffset_of_later later c.offset
  rw [lastOffset_append]
  unfold lastOffset at rest ⊢
  rw [List.foldl_cons, if_pos made, rest]

theorem lastOffset_mem (second : Int) (changes : List OffsetChange) (initial : Int) :
    lastOffset second changes initial = initial
      ∨ ∃ c ∈ changes, lastOffset second changes initial = c.offset := by
  induction changes using List.reverseRecOn with
  | nil => exact .inl rfl
  | append_singleton changes c ih =>
    rw [lastOffset_append]
    by_cases made : c.second ≤ second
    · right
      exact ⟨c, by simp, by simp [lastOffset, made]⟩
    · have kept : lastOffset second [c] (lastOffset second changes initial)
          = lastOffset second changes initial := by simp [lastOffset, made]
      rw [kept]
      exact ih.imp_right fun ⟨d, hd, eq⟩ => ⟨d, List.mem_append_left _ hd, eq⟩

def fiveDays : Int := 432000

namespace ZoneRules

theorem offsetAt_eq (z : ZoneRules) (second : Int) :
    z.offsetAt second = lastOffset second (z.changes ++ z.yearlyChanges second) z.initial :=
  rfl

theorem offset_of_mem_yearlyChanges {z : ZoneRules} {second : Int} {c : OffsetChange}
    (h : c ∈ z.yearlyChanges second) :
    ∃ r, z.yearly = some r ∧ (c.offset = r.standard ∨ c.offset = r.daylight) := by
  unfold yearlyChanges at h
  split at h
  · simp at h
  next r hr =>
    refine ⟨r, hr, ?_⟩
    have mem := (List.mem_filter.mp h).1
    simp only [List.mem_append] at mem
    unfold YearlyRule.changes at mem
    rcases mem with (mem | mem) | mem
    all_goals
      dsimp only at mem
      split at mem <;> simp only [List.mem_cons, List.not_mem_nil, or_false] at mem <;>
        rcases mem with rfl | rfl <;> simp

theorem offsetAt_mem_offsets (z : ZoneRules) (second : Int) : z.offsetAt second ∈ z.offsets := by
  unfold offsets
  rw [List.mem_eraseDups, offsetAt_eq]
  rcases lastOffset_mem second (z.changes ++ z.yearlyChanges second) z.initial with eq | ⟨c, hc, eq⟩
  · simp [eq]
  · rw [eq]
    rcases List.mem_append.mp hc with change | yearly
    · exact List.mem_append_left _ (List.mem_cons_of_mem _ (List.mem_map_of_mem change))
    · obtain ⟨r, hr, offset⟩ := offset_of_mem_yearlyChanges yearly
      simp only [hr]
      apply List.mem_append_right
      rcases offset with offset | offset <;> simp [offset]

/-- Clocks that are always less than a day from UTC. -/
def WithinDay (z : ZoneRules) : Prop :=
  ∀ offset ∈ z.offsets, -secondsPerDay < offset ∧ offset < secondsPerDay

theorem WithinDay.offsetAt_range {z : ZoneRules} (h : z.WithinDay) (second : Int) :
    -86400 < z.offsetAt second ∧ z.offsetAt second < 86400 :=
  h _ (z.offsetAt_mem_offsets second)

/-- From one epoch second until another, for five days or longer, the offset stays as it is. -/
structure Lasts (z : ZoneRules) (first next : Int) : Prop where
  long : first + fiveDays ≤ next
  same : ∀ second, first ≤ second → second < next → z.offsetAt second = z.offsetAt first

/-- How far clocks are set forward at an epoch second. -/
def jumpAt (z : ZoneRules) (second : Int) : Int :=
  z.offsetAt second - z.offsetAt (second - 1)

/-- From an epoch second on, every offset lasts for five days or longer, and clocks are set forward by
at most a day where the next one follows. -/
def SteadyFrom (z : ZoneRules) (start : Int) : Prop :=
  ∀ second, start ≤ second → ∃ first next, z.Lasts first next ∧ start ≤ first ∧ first ≤ second
    ∧ second < next
    ∧ (start < first → z.jumpAt first ≤ secondsPerDay)

/-- Every offset lasts for five days or longer, and clocks are set forward by at most a day. -/
def Steady (z : ZoneRules) : Prop :=
  ∀ second, ∃ first next, z.Lasts first next ∧ first ≤ second ∧ second < next
    ∧ z.jumpAt first ≤ secondsPerDay

theorem SteadyFrom.extend {z : ZoneRules} {first next : Int} (steady : z.SteadyFrom next)
    (lasts : z.Lasts first next) (jump : z.jumpAt next ≤ secondsPerDay) : z.SteadyFrom first := by
  have long := lasts.long
  unfold fiveDays at long
  intro second hs
  by_cases before : second < next
  · exact ⟨first, next, lasts, Int.le_refl _, hs, before, fun h => absurd h (Int.lt_irrefl _)⟩
  · obtain ⟨first', next', lasts', start, hs', before', jump'⟩ := steady second (by omega)
    refine ⟨first', next', lasts', by omega, hs', before', fun _ => ?_⟩
    rcases Int.lt_or_eq_of_le start with lt | rfl
    · exact jump' lt
    · exact jump

end ZoneRules

end Almanac
