import Almanac.Calendar.Lapse
import Almanac.Instant.Basic
import Almanac.Zone.Offset
import Almanac.Zone.Rules

namespace Almanac

/-- The clocks of a zone: always the same offset from UTC, or one that changes. -/
inductive ZoneClock
  | fixed (offset : Int)
  | ruled (rules : ZoneRules)
deriving DecidableEq

structure Zone where
  id : String
  clock : ZoneClock
deriving DecidableEq

/-- Why there is no zone of an offset: it has too many hours to be written, or too many days. -/
inductive OffsetFault
  | longHours
  | tooManyDays (days : Int)
deriving DecidableEq

/-- The first and the last instant at which changing offsets are looked up. -/
def firstLookup : Instant :=
  DateTime.instant ⟨⟨1, 1, 2⟩, .midnight⟩ 0

def lastLookup : Instant :=
  DateTime.instant ⟨⟨9999, 12, 30⟩, .midnight⟩ 0

/-- The instant at which a changing offset is looked up. Before the first and after the last one
the offset stays as it is there. -/
def Instant.lookup (i : Instant) : Instant :=
  if i < firstLookup then firstLookup else if lastLookup < i then lastLookup else i

/-- The date and time for which a changing offset is looked up, to the second. Years before 2 and
after 9998 take the offsets of those years, and 29 February then that of the day before. -/
def DateTime.lookup (c : DateTime) : DateTime :=
  let year := if c.date.year < 2 then 2 else if 9998 < c.date.year then 9998 else c.date.year
  let day := if year ≠ c.date.year ∧ c.date.month = 2 ∧ 28 < c.date.day then 28 else c.date.day
  ⟨⟨year, c.date.month, day⟩, { c.time with millisecond := 0 }⟩

/-- The seconds that a wall clock has counted from the start of 1970. -/
def DateTime.wallSecond (c : DateTime) : Int :=
  (c.instant 0).epochSecond

namespace Zone

def utc : Zone := ⟨"Z", .fixed 0⟩

/-- The zone whose clocks are always as many seconds ahead of UTC, called by its offset. -/
def atOffset (offset : Int) : Zone :=
  ⟨String.ofList (offsetText offset), .fixed offset⟩

/-- The zone of an offset, if its hours can be written and it is a length of time. -/
def ofOffset (offset : Int) : Except OffsetFault Zone :=
  if TooLong (offset.natAbs / 3600) then .error .longHours
  else
    match Lapse.ofMicros? (offset * 1000000) with
    | none => .error (.tooManyDays (offset / secondsPerDay))
    | some _ => .ok (atOffset offset)

def fixedOffset? (z : Zone) : Option Int :=
  match z.clock with
  | .fixed offset => some offset
  | .ruled _ => none

/-- The offset of a zone's clocks at an instant, in seconds east of UTC. -/
def offsetAt (z : Zone) (i : Instant) : Int :=
  match z.clock with
  | .fixed offset => offset
  | .ruled rules => rules.offsetAt i.lookup.epochSecond

/-- What a zone's clocks show at an instant. -/
def dateTime (z : Zone) (i : Instant) : DateTime :=
  i.dateTime (z.offsetAt i)

/-- The instant at which a zone's clocks show a date and time. Where they show it twice, the
preferred offset decides, or else the first time counts. Where they jump over it, it is moved by
the length of the jump. -/
def instant (z : Zone) (c : DateTime) (preferred? : Option Int) : Instant :=
  match z.clock with
  | .fixed offset => c.instant offset
  | .ruled rules =>
    let wall := c.lookup.wallSecond
    match rules.offsetsAtWall wall, preferred? with
    | [], _ =>
      let jump := rules.jumpAround wall
      ⟨c.epochMillis (rules.offsetAtWall (wall + jump)) + jump * millisPerSecond⟩
    | first :: rest, none => c.instant (ZoneRules.largest first rest)
    | first :: rest, some preferred =>
      c.instant (if preferred ∈ first :: rest then preferred else ZoneRules.largest first rest)

end Zone

end Almanac
