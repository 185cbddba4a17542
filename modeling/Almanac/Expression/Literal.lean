import Almanac.Failure
import Almanac.Zone.Basic

namespace Almanac

/-- A text that names a date or a time by itself. Fields are kept as they are written, in range or
not, but of a year of more than four digits nothing else matters. -/
inductive Literal
  | instant (dateTime : DateTime) (offset : OffsetFields)
  | dateTime (dateTime : DateTime)
  | timeOfDay (time : TimeOfDay)
  | wideYear
deriving DecidableEq

/-- The date at the head of a text: a year of at least four digits, month and day of two. The first
part says whether the year has more than four digits. -/
def dateHead? (text : List Char) : Option (Bool × Date × List Char) :=
  let (negative, body) := (sign? text).getD (false, text)
  let digits := body.takeWhile isDecimalDigit
  if digits.length < 4 then none
  else
    match body.dropWhile isDecimalDigit with
    | '-' :: rest =>
      match pair? rest with
      | some (month, '-' :: rest) =>
        (pair? rest).map fun (day, rest) =>
          let year : Int := digitsValue digits
          (4 < digits.length, ⟨if negative then -year else year, month, day⟩, rest)
      | _ => none
    | _ => none

/-- A fraction of a second in milliseconds; further digits are dropped. -/
def fractionMillis (digits : List Char) : Nat :=
  digitsValue (digits.take 3 ++ List.replicate (3 - digits.length) '0')

/-- The time at the head of a text: hours and minutes, then perhaps seconds, then perhaps up to
nine digits of fraction. -/
def timeHead? (text : List Char) : Option (TimeOfDay × List Char) :=
  match pair? text with
  | some (hour, ':' :: rest) =>
    match pair? rest with
    | some (minute, ':' :: rest) =>
      match pair? rest with
      | some (second, mark :: rest) =>
        if mark = '.' ∨ mark = ',' then
          let digits := rest.takeWhile isDecimalDigit
          if 1 ≤ digits.length ∧ digits.length ≤ 9 then
            some (⟨hour, minute, second, fractionMillis digits⟩, rest.dropWhile isDecimalDigit)
          else none
        else some (⟨hour, minute, second, 0⟩, mark :: rest)
      | some (second, []) => some (⟨hour, minute, second, 0⟩, [])
      | none => none
    | some (minute, rest) => some (⟨hour, minute, 0, 0⟩, rest)
    | none => none
  | _ => none

/-- The offset that ends the text of an instant: `Z`, or a sign and hours of two digits. -/
def offsetTail? (text : List Char) : Option OffsetFields :=
  if text = ['Z'] ∨ text = ['z'] then some ⟨false, 0, 0, 0⟩
  else (sign? text).bind fun (negative, rest) => wideOffset? negative rest

/-- The whole text as a year and perhaps, after any one character that is no digit, a month of two
digits. Only the digits 0 to 9 count. -/
def yearMonthParts? (text : List Char) : Option (List Char × Option (List Char)) :=
  let year := text.takeWhile Char.isDigit
  match text.dropWhile Char.isDigit with
  | [] => some (year, none)
  | [_, a, b] => if a.isDigit && b.isDigit then some (year, some [a, b]) else none
  | _ => none

/-- The whole text as a year of four digits and perhaps a month. -/
def yearMonth? (text : List Char) : Option (List Char × Option (List Char)) :=
  (yearMonthParts? text).filter (·.1.length = 4)

namespace Literal

/-- A literal that begins with a date. -/
def dated? (text : List Char) : Option Literal :=
  match dateHead? text with
  | none => none
  | some (wide, date, []) => some (if wide then wideYear else dateTime ⟨date, .midnight⟩)
  | some (wide, date, mark :: rest) =>
    if mark = 'T' ∨ mark = 't' then
      match timeHead? rest with
      | none => none
      | some (time, []) => some (if wide then wideYear else dateTime ⟨date, time⟩)
      | some (time, rest) =>
        (offsetTail? rest).map fun offset =>
          if wide then wideYear else instant ⟨date, time⟩ offset
    else none

/-- A literal that is a time. -/
def timed? (text : List Char) : Option Literal :=
  match timeHead? text with
  | some (time, []) => some (timeOfDay time)
  | _ => none

/-- A literal that is a year or a month of a year: its first day. -/
def yearly? (text : List Char) : Option Literal :=
  match yearMonthParts? text with
  | none => none
  | some (year, month) =>
    if year.length < 4 then none
    else if 4 < year.length then some wideYear
    else some (dateTime ⟨⟨digitsValue year, (month.map digitsValue).getD 1, 1⟩, .midnight⟩)

def read? (text : List Char) : Option Literal :=
  (dated? text).or ((timed? text).or (yearly? text))

/-- The instant that a literal written as `text` names. Without an offset it is read in the zone; a
time is one of the day in which `now` lies there. -/
def toInstant (l : Literal) (text : Text) (zone : Zone) (now : Instant) :
    Except Failure Instant :=
  match l with
  | instant c offset =>
    match c.checked with
    | .error fault => .error (.invalidDate text fault)
    | .ok c =>
      match offset.total? with
      | none => .error (.invalidOffset text)
      | some seconds => .ok (c.instant seconds)
  | dateTime c =>
    match c.checked with
    | .error fault => .error (.invalidDate text fault)
    | .ok c => .ok (zone.instant c none)
  | timeOfDay time =>
    match (zone.dateTime now).atTime time with
    | .error fault => .error (.invalidTime text fault)
    | .ok c => .ok (zone.instant c none)
  | wideYear => .error (.wideYear text)

end Literal

end Almanac
