import Almanac.Calendar.Lapse
import Almanac.Calendar.Ordinal
import Almanac.Instant.Text

namespace Almanac

/-- A wall clock reading of a year from 1 to 9999 in microseconds, with the clock's offset from UTC
if it is known. -/
structure Stamp where
  date : Date
  hour : Int
  minute : Int
  second : Int
  microsecond : Int
  offsetMicros? : Option Int
deriving DecidableEq

namespace Stamp

/-- What the clock shows, to the millisecond. -/
def dateTime (s : Stamp) : DateTime :=
  ⟨s.date, ⟨s.hour, s.minute, s.second, s.microsecond / 1000⟩⟩

/-- The instant of a stamp. A clock of unknown offset is taken to show UTC; of an offset the whole
seconds count. -/
def instant (s : Stamp) : Instant :=
  match s.offsetMicros? with
  | none => s.dateTime.instant 0
  | some micros => s.dateTime.instant (wholeSeconds micros)

/-- The ISO 8601 text of a stamp of UTC. -/
def text (s : Stamp) : List Char :=
  s.dateTime.millisText ++ "+00:00".toList

/-- The start of 1970 in UTC. -/
def epoch : Stamp :=
  ⟨⟨1970, 1, 1⟩, 0, 0, 0, 0, some 0⟩

/-- The number of the date in days, and the time of day, in microseconds. -/
def wallMicros (s : Stamp) : Int :=
  s.date.ordinal * microsPerDay + ((s.hour * 60 + s.minute) * 60 + s.second) * 1000000
    + s.microsecond

/-- What the clock shows after a length of time, if that is a date that stamps have. -/
def plus? (s : Stamp) (lapse : Lapse) : Option Stamp :=
  match Lapse.ofMicros? (s.wallMicros + lapse.micros) with
  | none => none
  | some wall =>
    let day := wall.micros / microsPerDay
    let time := wall.micros % microsPerDay
    if 1 ≤ day ∧ day ≤ Date.ordinal ⟨9999, 12, 31⟩ then
      some
        { date := .ofOrdinal day
          hour := time / 3600000000
          minute := time / 60000000 % 60
          second := time / 1000000 % 60
          microsecond := time % 1000000
          offsetMicros? := s.offsetMicros? }
    else none

end Stamp

/-- The stamp of an instant in UTC, which is as far from the start of 1970 as the instant. There is
none if it is too far, which is told with the text of the instant if it has one. -/
def Instant.stamp (i : Instant) : Except Failure Stamp :=
  match (Lapse.ofMicros? (i.epochMillis * 1000)).bind Stamp.epoch.plus? with
  | some s => .ok s
  | none =>
    match i.isoText with
    | .error failure => .error failure
    | .ok _ => .error (.noStamp i)

end Almanac
