import Almanac.Calendar.DateTime

namespace Almanac

/-- A point on the time line, in milliseconds since the start of 1970 in UTC. -/
structure Instant where
  epochMillis : Int
deriving DecidableEq, Ord

/-- The moment at which a clock `offset` seconds east of UTC shows a date and time. -/
def DateTime.instant (c : DateTime) (offset : Int) : Instant :=
  ⟨c.epochMillis offset⟩

namespace Instant

instance : LT Instant := ltOfOrd

theorem lt_iff {i j : Instant} : i < j ↔ i.epochMillis < j.epochMillis := by
  change compare i j = .lt ↔ _
  simp only [compare, instOrdInstant.ord, compareOfLessAndEq]
  grind

/-- What a clock `offset` seconds east of UTC shows at an instant. -/
def dateTime (i : Instant) (offset : Int) : DateTime :=
  .ofEpochMillis i.epochMillis offset

def ofEpochSecond (second : Int) : Instant :=
  ⟨second * millisPerSecond⟩

/-- The last full second at or before an instant. -/
def epochSecond (i : Instant) : Int :=
  i.epochMillis / millisPerSecond

/-- Steps from an instant are taken on the calendar and clock of UTC. -/
def plus (i : Instant) (amount : Int) (unit : TimeUnit) : Instant :=
  ((i.dateTime 0).plus amount unit).instant 0

def minus (i : Instant) (amount : Int) (unit : TimeUnit) : Instant :=
  i.plus (-amount) unit

def epoch : Instant := ⟨0⟩

def startOfYearZero : Instant :=
  DateTime.instant ⟨⟨0, 1, 1⟩, .midnight⟩ 0

def startOfYear2000 : Instant :=
  DateTime.instant ⟨⟨2000, 1, 1⟩, .midnight⟩ 0

/-- The last second that a signed count of 32 bits reaches. -/
def lastSecondOf32Bits : Instant :=
  ofEpochSecond 2147483647

/-- The last day of the year 9999, which leaves room for zones west of UTC. -/
def lastDayOfYear9999 : Instant :=
  DateTime.instant ⟨⟨9999, 12, 31⟩, .midnight⟩ 0

def wellKnown : List (String × Instant) :=
  [("AT_EPOCH", epoch),
   ("AT_0AD", startOfYearZero),
   ("AT_Y2K", startOfYear2000),
   ("AT_Y2K38", lastSecondOf32Bits),
   ("AT_Y10K", lastDayOfYear9999)]

end Instant

/-- A clock that stands at an instant until it is moved. -/
structure FixedClock where
  instant : Instant
deriving DecidableEq

/-- Moves a clock by units, which are milliseconds unless others are named. -/
def FixedClock.advance (clock : FixedClock) (amount : Int) (unit : TimeUnit := .millisecond) :
    FixedClock :=
  ⟨clock.instant.plus amount unit⟩

end Almanac
