namespace Almanac

inductive TimeUnit
  | millisecond | second | hour | day | week | month | year
deriving DecidableEq

/-- How far one unit goes: a number of milliseconds, or a step of the calendar. -/
inductive Span
  | millis (count : Int)
  | months (count : Int)
deriving DecidableEq

def millisPerSecond : Int := 1000

def millisPerHour : Int := 3600000

def millisPerDay : Int := 86400000

/-- The whole seconds of a number of microseconds, which are cut off towards zero. -/
def wholeSeconds (micros : Int) : Int :=
  micros.tdiv 1000000

namespace TimeUnit

def all : List TimeUnit :=
  [millisecond, second, hour, day, week, month, year]

/-- The code of a unit is case sensitive: `m` is a month. -/
def code : TimeUnit → String
  | millisecond => "ms"
  | second => "s"
  | hour => "h"
  | day => "d"
  | week => "w"
  | month => "m"
  | year => "y"

def ofCode? (code : List Char) : Option TimeUnit :=
  all.find? (·.code.toList = code)

def span : TimeUnit → Span
  | millisecond => .millis 1
  | second => .millis millisPerSecond
  | hour => .millis millisPerHour
  | day => .millis millisPerDay
  | week => .millis (7 * millisPerDay)
  | month => .months 1
  | year => .months 12

theorem ofCode?_code (u : TimeUnit) : ofCode? u.code.toList = some u := by
  cases u <;> decide

end TimeUnit

end Almanac
