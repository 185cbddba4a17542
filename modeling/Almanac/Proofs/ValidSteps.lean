import Almanac.Expression.Anchor
import Almanac.Proofs.ClockReading

namespace Almanac

namespace Date

theorem valid_first {year month : Int} (first : 1 ≤ month) (last : month ≤ 12) :
    Valid ⟨year, month, 1⟩ := by
  have length := monthLength_range year month
  exact ⟨first, last, Int.le_refl 1, by dsimp only; omega⟩

theorem Valid.plusMonths {d : Date} (h : d.Valid) (months : Int) : (d.plusMonths months).Valid := by
  obtain ⟨-, -, low, -⟩ := h
  have length := monthLength_range ((d.year * 12 + d.month - 1 + months) / 12)
    ((d.year * 12 + d.month - 1 + months) % 12 + 1)
  unfold Date.plusMonths
  dsimp only
  refine ⟨by dsimp only; omega, by dsimp only; omega, ?_, ?_⟩
  · dsimp only
    split <;> omega
  · dsimp only
    split <;> omega

end Date

namespace TimeOfDay

theorem valid_midnight : midnight.Valid := by
  decide

end TimeOfDay

namespace DateTime

variable {c : DateTime}

theorem Valid.plusMonths (h : c.Valid) (months : Int) : (c.plusMonths months).Valid :=
  ⟨h.1.plusMonths months, h.2⟩

theorem Valid.plus (h : c.Valid) (amount : Int) (unit : TimeUnit) : (c.plus amount unit).Valid := by
  unfold DateTime.plus
  split
  · exact valid_ofEpochMillis _ 0
  · exact h.plusMonths _

theorem Valid.startOfDay (h : c.Valid) : c.startOfDay.Valid :=
  ⟨h.1, TimeOfDay.valid_midnight⟩

theorem Valid.firstOfMonth (h : c.Valid) : c.firstOfMonth.Valid :=
  ⟨Date.valid_first h.1.1 h.1.2.1, h.2⟩

theorem Valid.newYear (h : c.Valid) (year : Int) : DateTime.Valid ⟨⟨year, 1, 1⟩, c.time⟩ :=
  ⟨Date.valid_first (by decide) (by decide), h.2⟩

theorem Valid.plusDays (h : c.Valid) (days : Int) : DateTime.Valid ⟨c.date.plusDays days, c.time⟩ :=
  ⟨c.date.valid_plusDays days, h.2⟩

end DateTime

theorem Anchor.valid_resolve (a : Anchor) {present : DateTime} (h : present.Valid) (zone : Zone) :
    (a.resolve present zone).Valid := by
  have start := h.startOfDay
  cases a
  case now => exact h
  case min | distantPast => exact Instant.valid_dateTime _ _
  case max | distantFuture => exact Instant.valid_dateTime _ _
  case morning => exact ⟨h.1, show TimeOfDay.Valid ⟨9, 0, 0, 0⟩ by decide⟩
  case noon => exact ⟨h.1, show TimeOfDay.Valid ⟨12, 0, 0, 0⟩ by decide⟩
  case midnight | today => exact start
  case tomorrow | yesterday | dayAfterTomorrow | dayBeforeYesterday => exact start.plus _ _
  case beginningMonth => exact start.firstOfMonth
  case endMonth => exact start.firstOfMonth.plusMonths 1
  case beginningYear | endYear => exact start.newYear _
  case beginningWeek | endWeek => exact start.plusDays _
  case nextMonth | lastMonth | nextYear | lastYear => exact h.plus _ _

end Almanac
