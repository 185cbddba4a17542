import Almanac.Calendar.MonthName
import Almanac.Instant.Text
import Almanac.Zone.Basic

namespace Almanac

namespace Zone

/-- The month and year that an instant falls in: `October, 1974`. -/
def monthYear (z : Zone) (i : Instant) (locale : String) : List Char :=
  let date := (z.dateTime i).date
  ((monthName? date.month locale).getD "").toList ++ ',' :: ' ' :: decimal date.year

/-- The week and its year that an instant falls in: `42, 1974`. -/
def weekYear (z : Zone) (i : Instant) : List Char :=
  let (year, week) := (z.dateTime i).date.isoWeek
  decimal week ++ ',' :: ' ' :: decimal year

def monthYearText (z : Zone) (i : Instant) (locale : String) : Except Failure (List Char) :=
  writtenYear (z.dateTime i).date.year (z.monthYear i locale)

def weekYearText (z : Zone) (i : Instant) : Except Failure (List Char) :=
  writtenYear (z.dateTime i).date.isoWeek.1 (z.weekYear i)

end Zone

end Almanac
