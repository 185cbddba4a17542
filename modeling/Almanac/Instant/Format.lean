import Almanac.Instant.Basic

namespace Almanac

/-- Years from 0 to 9999 have four digits; a later year has a plus sign, an earlier one a minus
sign before at least four digits. -/
def yearForm (year : Int) : List Char :=
  if 9999 < year then '+' :: decimal year
  else if year < 0 then '-' :: padded 4 year.natAbs
  else padded 4 year.natAbs

def Date.text (d : Date) : List Char :=
  yearForm d.year ++ '-' :: padded 2 d.month.toNat ++ '-' :: padded 2 d.day.toNat

/-- Hours, minutes and seconds. -/
def TimeOfDay.secondsText (t : TimeOfDay) : List Char :=
  padded 2 t.hour.toNat ++ ':' :: padded 2 t.minute.toNat ++ ':' :: padded 2 t.second.toNat

def TimeOfDay.millisText (t : TimeOfDay) : List Char :=
  t.secondsText ++ '.' :: padded 3 t.millisecond.toNat

def DateTime.millisText (c : DateTime) : List Char :=
  c.date.text ++ 'T' :: c.time.millisText

def DateTime.secondsText (c : DateTime) : List Char :=
  c.date.text ++ 'T' :: c.time.secondsText

/-- The fields down to the second without separators. -/
def DateTime.compactText (c : DateTime) : List Char :=
  yearForm c.date.year ++ padded 2 c.date.month.toNat ++ padded 2 c.date.day.toNat
    ++ padded 2 c.time.hour.toNat ++ padded 2 c.time.minute.toNat ++ padded 2 c.time.second.toNat

namespace Instant

/-- The ISO 8601 form of an instant in UTC, always with three digits of fraction. -/
def isoForm (i : Instant) : List Char :=
  (i.dateTime 0).millisText ++ ['Z']

/-- The ISO 8601 form without the fraction of the second. -/
def isoSecondsForm (i : Instant) : List Char :=
  (i.dateTime 0).secondsText ++ ['Z']

/-- The form without fraction and separators. -/
def compactForm (i : Instant) : List Char :=
  (i.dateTime 0).compactText

end Instant

end Almanac
