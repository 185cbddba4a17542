import Almanac.Expression.Anchor
import Almanac.Expression.Duration
import Almanac.Expression.Literal
import Almanac.Expression.Sum

namespace Almanac

/-- A date expression. A sum has a single duration on its right. -/
inductive Expression
  | literal (text : Text) (value : Literal)
  | anchor (value : Anchor)
  | fromNow (value : Duration)
  | sum (base : Expression) (value : Duration)
deriving DecidableEq

/-- A date and time in the years that have at most four digits. -/
def DateTime.withinYears (c : DateTime) : Except Failure DateTime :=
  if -9999 ≤ c.date.year ∧ c.date.year ≤ 9999 then .ok c
  else if TooLong c.date.year then .error .longYear
  else .error (.yearOutOfRange c.date.year)

/-- The instant of a date and time that was reached from one with a known offset. -/
def Zone.land (zone : Zone) (c : DateTime) (offset : Int) : Except Failure Instant :=
  match c.withinYears with
  | .error failure => .error failure
  | .ok c => .ok (zone.instant c (some offset))

namespace Expression

/-- Reads a trimmed text. The first form that fits is taken: a literal, a sum, an anchor, a
duration. -/
def read (text : List Symbol) : Except Failure Expression :=
  match Literal.read? (text.map Symbol.reading) with
  | some value => .ok (literal (.ofSymbols text) value)
  | none =>
    match _h : splitSum? text with
    | some parts =>
      match Duration.read parts.right with
      | .error failure => .error failure
      | .ok value =>
        match read parts.left with
        | .error failure => .error failure
        | .ok base => .ok (sum base (if parts.sign = '-' then value.negated else value))
    | none =>
      match Anchor.find? (text.map Symbol.reading) with
      | some value => .ok (anchor value)
      | none =>
        match Duration.read? text with
        | .error failure => .error failure
        | .ok (some value) => .ok (fromNow value)
        | .ok none => .error (.unreadable (.ofSymbols text))
termination_by text.length
decreasing_by exact splitSum?_left_length _h

/-- The instant of an expression in a zone. Steps are taken on the calendar and clock of the zone,
and keep the offset they start from where the clock shows a time twice. -/
def toInstant (e : Expression) (zone : Zone) (now : Instant) : Except Failure Instant :=
  match e with
  | literal text value => value.toInstant text zone now
  | anchor value =>
    zone.land (value.resolve (zone.dateTime now) zone) (zone.offsetAt now)
  | fromNow value =>
    zone.land (value.addTo (zone.dateTime now)) (zone.offsetAt now)
  | sum base value =>
    match base.toInstant zone now with
    | .error failure => .error failure
    | .ok i => zone.land (value.addTo (zone.dateTime i)) (zone.offsetAt i)

end Expression

/-- The instant that a text names in a zone. -/
def evaluate (text? : Option Text) (zone : Zone) (now : Instant) : Except Failure Instant :=
  match text? with
  | none => .error .blankText
  | some text =>
    match trimSymbols text.symbols with
    | [] => .error .blankText
    | body => (Expression.read body).bind (·.toInstant zone now)

/-- Whether a text names an instant. Numbers of too many digits are no answer to that. -/
def isValid (text? : Option Text) (zone : Zone) (now : Instant) : Except Failure Bool :=
  match evaluate text? zone now with
  | .ok _ => .ok true
  | .error failure => if failure.category?.isSome then .ok false else .error failure

end Almanac
