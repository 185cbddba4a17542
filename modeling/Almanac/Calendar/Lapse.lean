namespace Almanac

def microsPerDay : Int := 86400000000

/-- A length of time in microseconds, of fewer than a thousand million days. -/
structure Lapse where
  micros : Int
  bounded : -999999999 ≤ micros / microsPerDay ∧ micros / microsPerDay ≤ 999999999

def Lapse.ofMicros? (micros : Int) : Option Lapse :=
  if bounded : -999999999 ≤ micros / microsPerDay ∧ micros / microsPerDay ≤ 999999999 then
    some ⟨micros, bounded⟩
  else none

end Almanac
