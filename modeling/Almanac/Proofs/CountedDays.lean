import Almanac.Proofs.ClockReading

namespace Almanac

def yearLength (year : Int) : Int :=
  if isLeapYear year then 366 else 365

/-- The days of years or months that follow each other, as many as are asked for. -/
def daysFrom (length : Int → Int) (first : Int) : Nat → Int
  | 0 => 0
  | n + 1 => length first + daysFrom length (first + 1) n

/-- The days from the start of 1970 to the start of a year, one year after the other. The years
from an earlier one up to 1970 are taken back. -/
def daysToYear (year : Int) : Int :=
  if 1970 ≤ year then daysFrom yearLength 1970 (year - 1970).toNat
  else -daysFrom yearLength year (1970 - year).toNat

/-- The days of a year before one of its months. -/
def daysToMonth (year month : Int) : Int :=
  daysFrom (monthLength year) 1 (month - 1).toNat

theorem daysFrom_nonneg {length : Int → Int} (positive : ∀ k, 0 ≤ length k) (first : Int) (n : Nat) :
    0 ≤ daysFrom length first n := by
  induction n generalizing first with
  | zero => exact Int.le_refl 0
  | succ n ih => exact Int.add_nonneg (positive first) (ih (first + 1))

/-- If each start comes as many days after the one before as the length between them says, so do
starts that are further apart. -/
theorem start_eq_add_daysFrom (start length : Int → Int) {first last : Int} {n : Nat}
    (next : ∀ k, first ≤ k → k < last → start (k + 1) = start k + length k)
    (reached : first + n = last) : start last = start first + daysFrom length first n := by
  -- The lengths are taken off from the front, so the end stays where it is.
  induction n generalizing first with
  | zero =>
    obtain rfl : first = last := by omega
    exact (Int.add_zero _).symm
  | succ n ih =>
    have later := @ih (first + 1) (fun k above below => next k (by omega) below) (by omega)
    rw [later, next first (Int.le_refl first) (by omega), daysFrom, Int.add_assoc]

namespace Date

theorem epochDay_newYear_succ (year : Int) :
    epochDay ⟨year + 1, 1, 1⟩ = epochDay ⟨year, 1, 1⟩ + yearLength year := by
  have leap := @isLeapYear_iff year
  rw [epochDay_newYear, epochDay_newYear]
  unfold leapDaysUntil yearLength
  split
  next long =>
    have := leap.mp long
    omega
  next short =>
    have := mt leap.mpr short
    omega

theorem epochDay_newYear_eq_add {year later : Int} (notBefore : year ≤ later) :
    epochDay ⟨later, 1, 1⟩
      = epochDay ⟨year, 1, 1⟩ + daysFrom yearLength year (later - year).toNat :=
  start_eq_add_daysFrom (fun y => epochDay ⟨y, 1, 1⟩) yearLength
    (fun y _ _ => epochDay_newYear_succ y) (by omega)

/-- The count by cycles of leap years comes to what one year after the other does. -/
theorem epochDay_newYear_eq_daysToYear (year : Int) : epochDay ⟨year, 1, 1⟩ = daysToYear year := by
  have origin : epochDay ⟨1970, 1, 1⟩ = 0 := by decide
  unfold daysToYear
  split
  next later =>
    have up := epochDay_newYear_eq_add later
    omega
  next earlier =>
    have up := epochDay_newYear_eq_add (show year ≤ 1970 by omega)
    omega

/-- Only from February to March does it tell which year it is. -/
theorem epochDay_first_succ (year : Int) {month : Int} (first : 1 ≤ month) (last : month ≤ 11) :
    epochDay ⟨year, month + 1, 1⟩ = epochDay ⟨year, month, 1⟩ + monthLength year month := by
  have leap := @isLeapYear_iff year
  have cases : month = 1 ∨ month = 2 ∨ month = 3 ∨ month = 4 ∨ month = 5 ∨ month = 6 ∨ month = 7
      ∨ month = 8 ∨ month = 9 ∨ month = 10 ∨ month = 11 := by omega
  unfold epochDay monthLength
  rcases cases with rfl | rfl | rfl | rfl | rfl | rfl | rfl | rfl | rfl | rfl | rfl
  case inr.inl =>
    simp
    split
    next long =>
      have := leap.mp long
      omega
    next short =>
      have := mt leap.mpr short
      omega
  all_goals
    simp
    omega

theorem epochDay_first_eq_add (year : Int) {month later : Int} (first : 1 ≤ month)
    (notBefore : month ≤ later) (last : later ≤ 12) :
    epochDay ⟨year, later, 1⟩
      = epochDay ⟨year, month, 1⟩ + daysFrom (monthLength year) month (later - month).toNat :=
  start_eq_add_daysFrom (fun m => epochDay ⟨year, m, 1⟩) (monthLength year)
    (fun _ above below => epochDay_first_succ year (by omega) (by omega)) (by omega)

/-- The days to a date are those of the years between 1970 and its own, of the months of its year
before its own, and of its month before it. -/
theorem Valid.epochDay_eq_count {d : Date} (h : d.Valid) :
    d.epochDay = daysToYear d.year + daysToMonth d.year d.month + (d.day - 1)
      ∧ d.dayOfYear = 1 + daysToMonth d.year d.month + (d.day - 1) := by
  obtain ⟨first, last, -, -⟩ := h
  have day := d.epochDay_eq_first
  have month : d.firstOfMonth.epochDay = _ + daysToMonth d.year d.month :=
    epochDay_first_eq_add d.year (Int.le_refl 1) first last
  have year := epochDay_newYear_eq_daysToYear d.year
  unfold dayOfYear
  constructor
  · omega
  · omega

theorem epochDay_eq_count_before_1970 :
    Valid ⟨1968, 3, 1⟩
      ∧ epochDay ⟨1968, 3, 1⟩ = -(366 + 365) + (31 + 29) + 0
      ∧ dayOfYear ⟨1968, 3, 1⟩ = 1 + (31 + 29) + 0 := by
  have valid : Valid ⟨1968, 3, 1⟩ := by decide
  have years : daysToYear 1968 = -(366 + 365) := by decide
  have months : daysToMonth 1968 3 = 31 + 29 := by decide
  have count := valid.epochDay_eq_count
  rw [years, months] at count
  exact ⟨valid, count⟩

end Date

end Almanac
