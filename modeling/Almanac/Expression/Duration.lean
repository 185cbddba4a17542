import Almanac.Failure
import Almanac.Text.DecimalDigit

namespace Almanac

/-- A signed number of one unit. -/
structure Duration where
  amount : Int
  unit : TimeUnit
deriving DecidableEq

/-- The parts of a duration as it is written: whether it has a minus sign, its digits, and the
letters of its unit. -/
structure DurationParts where
  negative : Bool
  digits : List Char
  code : List Char
deriving DecidableEq

/-- The whole text as a sign that may be missing, digits from 0 to 9, and letters from A to Z of
either case, with white space around them. -/
def durationParts? (text : List Char) : Option DurationParts :=
  let body := trim text
  let (negative, body) := match body with
    | '-' :: rest => (true, rest)
    | '+' :: rest => (false, rest)
    | _ => (false, body)
  let body := body.dropWhile isBlank
  let digits := body.takeWhile Char.isDigit
  let code := (body.dropWhile Char.isDigit).dropWhile isBlank
  if digits ≠ [] ∧ code ≠ [] ∧ code.all Char.isAlpha then some ⟨negative, digits, code⟩ else none

namespace Duration

/-- The duration that a text is, if it is one. -/
def read? (text : List Symbol) : Except Failure (Option Duration) :=
  match durationParts? (text.map Symbol.reading) with
  | none => .ok none
  | some parts =>
    match TimeUnit.ofCode? parts.code with
    | none => .error (.unknownUnit (.ofSymbols text) (.ofChars parts.code))
    | some unit =>
      if digitLimit < parts.digits.length then .error (.longNumeral parts.digits.length)
      else
        let amount : Int := digitsValue parts.digits
        .ok (some ⟨if parts.negative then -amount else amount, unit⟩)

/-- The duration that a text has to be. -/
def read (text : List Symbol) : Except Failure Duration :=
  match read? text with
  | .error failure => .error failure
  | .ok none => .error (.malformedDuration (.ofSymbols text))
  | .ok (some d) => .ok d

def negated (d : Duration) : Duration :=
  { d with amount := -d.amount }

def addTo (d : Duration) (c : DateTime) : DateTime :=
  c.plus d.amount d.unit

def text (d : Duration) : List Char :=
  decimal d.amount ++ d.unit.code.toList

end Duration

end Almanac
