import Almanac.Instant.Text
import Almanac.Proofs.ClockReading
import Almanac.Proofs.Digits

namespace Almanac

/-- The smallest number of as many digits as the limit. It has a name because it is too long to
compute with. -/
@[irreducible]
def smallestLong : Nat := 10 ^ (digitLimit - 1)

theorem pow_le_smallestLong {k : Nat} (h : k ≤ digitLimit - 1) : 10 ^ k ≤ smallestLong := by
  unfold smallestLong
  exact Nat.pow_le_pow_right (by decide) h

theorem le_smallestLong : 1000000000000 ≤ smallestLong :=
  @pow_le_smallestLong 12 (by decide)

theorem tooLong_iff {n : Int} : TooLong n ↔ smallestLong * 10 ≤ n.natAbs := by
  have limit : smallestLong * 10 = 10 ^ digitLimit := by
    obtain ⟨k, hk⟩ : ∃ k, digitLimit = k + 1 := ⟨4299, rfl⟩
    unfold smallestLong
    rw [hk, Nat.add_sub_cancel, Nat.pow_succ]
  rw [TooLong, ← Nat.not_le, Nat.length_toDigits_le_iff (by decide) (by decide), Nat.not_lt, limit]

theorem TooLong.wide {year : Int} (long : TooLong year) : ¬ (-9999 ≤ year ∧ year ≤ 9999) := by
  have digits := tooLong_iff.mp long
  have large := le_smallestLong
  omega

namespace Date

/-- The first day of a year of 4302 digits. -/
def farAway : Date :=
  ⟨smallestLong * 100, 1, 1⟩

theorem valid_farAway : farAway.Valid := by
  have length : monthLength farAway.year farAway.month = 31 := rfl
  refine ⟨by decide, by decide, by decide, ?_⟩
  rw [length]
  decide

theorem year_farAway : farAway.year = smallestLong * 100 :=
  rfl

theorem tooLong_farAway : TooLong farAway.year := by
  rw [tooLong_iff, year_farAway]
  omega

end Date

namespace Instant

def farAway : Instant :=
  DateTime.instant ⟨.farAway, .midnight⟩ 0

theorem dateTime_farAway : farAway.dateTime 0 = ⟨.farAway, .midnight⟩ :=
  dateTime_instant ⟨Date.valid_farAway, by decide⟩ 0

theorem tooLong_farAway : TooLong (farAway.dateTime 0).date.year := by
  rw [dateTime_farAway]
  exact Date.tooLong_farAway

end Instant

end Almanac
