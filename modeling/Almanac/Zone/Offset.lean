import Almanac.Text.DecimalDigit
import Almanac.Text.Numeral

namespace Almanac

/-- The hours, minutes and seconds of a clock's offset from UTC as they are written. -/
structure OffsetFields where
  negative : Bool
  hours : Nat
  minutes : Nat
  seconds : Nat
deriving DecidableEq

/-- Clocks are at most eighteen hours and their full minutes and seconds away from UTC. -/
def OffsetFields.total? (o : OffsetFields) : Option Int :=
  if o.hours ≤ 18 ∧ o.minutes ≤ 59 ∧ o.seconds ≤ 59 then
    let total : Int := o.hours * 3600 + o.minutes * 60 + o.seconds
    some (if o.negative then -total else total)
  else none

/-- Two digits of any script at the head of a text. -/
def pair? : List Char → Option (Nat × List Char)
  | a :: b :: rest =>
    match digitValue? a, digitValue? b with
    | some x, some y => some (10 * x + y, rest)
    | _, _ => none
  | _ => none

/-- A text after the colon it may begin with. -/
def afterColon : List Char → List Char
  | ':' :: rest => rest
  | rest => rest

/-- The whole text as minutes and seconds of two digits each, of which the seconds or both may be
missing. Colons before them may be left out. -/
def minutesSeconds? (text : List Char) : Option (Nat × Nat) :=
  if text = [] then some (0, 0)
  else
    match pair? (afterColon text) with
    | none => none
    | some (minutes, rest) =>
      if rest = [] then some (minutes, 0)
      else
        match pair? (afterColon rest) with
        | some (seconds, []) => some (minutes, seconds)
        | _ => none

/-- The whole text as hours of two digits, minutes and seconds. -/
def wideOffset? (negative : Bool) (text : List Char) : Option OffsetFields :=
  match pair? text with
  | none => none
  | some (hours, rest) =>
    (minutesSeconds? rest).map fun (minutes, seconds) => ⟨negative, hours, minutes, seconds⟩

/-- The whole text as hours of one digit, minutes and seconds. -/
def narrowOffset? (negative : Bool) : List Char → Option OffsetFields
  | [] => none
  | a :: rest =>
    match digitValue? a with
    | none => none
    | some hours =>
      (minutesSeconds? rest).map fun (minutes, seconds) => ⟨negative, hours, minutes, seconds⟩

/-- The sign at the head of a text, whether it is a minus. -/
def sign? : List Char → Option (Bool × List Char)
  | '+' :: rest => some (false, rest)
  | '-' :: rest => some (true, rest)
  | _ => none

def isSign (c : Char) : Bool :=
  c == '+' || c == '-'

/-- A text without the line end that may close it. -/
def withoutLineEnd (text : List Char) : List Char :=
  if text.getLast? = some '\n' then text.dropLast else text

/-- The offset from UTC in seconds east that a text names: `+02:00`, `-0530` or `UTC+2`. -/
def readOffset? (text : List Char) : Option Int :=
  let body := withoutLineEnd text
  let name := (body.takeWhile (!isSign ·)).map Char.toLower
  if [[], "utc".toList, "gmt".toList, "ut".toList].contains name then
    match sign? (body.dropWhile (!isSign ·)) with
    | none => none
    | some (negative, rest) =>
      match wideOffset? negative rest with
      | some fields => fields.total?
      | none => (narrowOffset? negative rest).bind OffsetFields.total?
  else none

/-- An offset as hours and minutes, with seconds if they are not zero. Only UTC itself is `Z`. -/
def offsetText (offset : Int) : List Char :=
  if offset = 0 then ['Z']
  else
    let size := offset.natAbs
    (if offset < 0 then '-' else '+') :: padded 2 (size / 3600)
      ++ ':' :: padded 2 (size % 3600 / 60)
      ++ (if size % 60 = 0 then [] else ':' :: padded 2 (size % 60))

end Almanac
