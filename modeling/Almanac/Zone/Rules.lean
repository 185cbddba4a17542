import Almanac.Calendar.Date

namespace Almanac

/-- From an epoch second on, clocks are `offset` seconds east of UTC. -/
structure OffsetChange where
  second : Int
  offset : Int
deriving DecidableEq

/-- A moment of every year: the first, second, … weekday of a month, 5 for the last one and Sunday
as 0, so many seconds after its midnight by the wall clock. -/
structure YearlyMoment where
  month : Int
  week : Int
  weekday : Int
  time : Int
deriving DecidableEq

/-- Clocks that change to daylight time and back every year. -/
structure YearlyRule where
  standard : Int
  daylight : Int
  toDaylight : YearlyMoment
  toStandard : YearlyMoment
deriving DecidableEq

/-- The offsets of a zone's clocks: the first one, its changes in order of time, and the rule of
the years after the last change. -/
structure ZoneRules where
  initial : Int
  changes : List OffsetChange
  yearly : Option YearlyRule
deriving DecidableEq

def secondsPerDay : Int := 86400

/-- The moment in a year, in seconds that the wall clock counts from 1970. -/
def YearlyMoment.wallSecond (m : YearlyMoment) (year : Int) : Int :=
  let first := Date.epochDay ⟨year, m.month, 1⟩
  let day := (m.weekday - (first + 4)) % 7 + 7 * (m.week - 1)
  let day := if monthLength year m.month ≤ day then day - 7 else day
  (first + day) * secondsPerDay + m.time

/-- The two changes of a year, in order of time. Each is made when the clock it ends shows it. -/
def YearlyRule.changes (r : YearlyRule) (year : Int) : List OffsetChange :=
  let toDaylight := ⟨r.toDaylight.wallSecond year - r.standard, r.daylight⟩
  let toStandard := ⟨r.toStandard.wallSecond year - r.daylight, r.standard⟩
  if toDaylight.second ≤ toStandard.second then [toDaylight, toStandard]
  else [toStandard, toDaylight]

namespace ZoneRules

/-- The changes of the yearly rule in the years around an epoch second, as far as they come after
all others. -/
def yearlyChanges (z : ZoneRules) (second : Int) : List OffsetChange :=
  match z.yearly with
  | none => []
  | some r =>
    let year := (Date.ofEpochDay (second / secondsPerDay)).year
    (r.changes (year - 1) ++ r.changes year ++ r.changes (year + 1)).filter fun c =>
      z.changes.all fun d => d.second < c.second

/-- The offset in effect at an epoch second: that of the last change until then. -/
def offsetAt (z : ZoneRules) (second : Int) : Int :=
  (z.changes ++ z.yearlyChanges second).foldl
    (fun offset c => if c.second ≤ second then c.offset else offset) z.initial

/-- All offsets that the zone's clocks ever have. -/
def offsets (z : ZoneRules) : List Int :=
  let yearly := match z.yearly with
    | none => []
    | some r => [r.standard, r.daylight]
  (z.initial :: z.changes.map OffsetChange.offset ++ yearly).eraseDups

/-- The offsets under which the zone's clocks show a wall second: none where they jump over it, two
where they show it twice. -/
def offsetsAtWall (z : ZoneRules) (wall : Int) : List Int :=
  z.offsets.filter fun offset => z.offsetAt (wall - offset) = offset

/-- The larger of a number and those of a list. -/
def largest (first : Int) (rest : List Int) : Int :=
  rest.foldl (fun a b => if a < b then b else a) first

/-- The offset of the first instant at which the clocks show a wall second. For a second that they
jump over it is the offset before the jump. -/
def offsetAtWall (z : ZoneRules) (wall : Int) : Int :=
  match z.offsetsAtWall wall with
  | first :: rest => largest first rest
  | [] => z.offsetAt (wall - largest z.initial z.offsets)

/-- How far the clocks jump around a wall second that they do not show. -/
def jumpAround (z : ZoneRules) (wall : Int) : Int :=
  z.offsetAtWall (wall + secondsPerDay) - z.offsetAtWall (wall - secondsPerDay)

end ZoneRules

end Almanac
