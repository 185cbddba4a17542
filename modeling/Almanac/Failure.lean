import Almanac.Instant.Format
import Almanac.Text.Quoted

namespace Almanac

/-- Why a text has no instant, an id no zone, or an instant no stamp. The last two refuse numbers of
more than 4300 digits: `longNumeral` one that is read, `longYear` one that would be written. -/
inductive Failure
  | blankText
  | unreadable (text : Text)
  | invalidDate (text : Text) (fault : FieldFault)
  | invalidTime (text : Text) (fault : FieldFault)
  | invalidOffset (text : Text)
  | wideYear (text : Text)
  | malformedDuration (text : Text)
  | unknownUnit (text code : Text)
  | yearOutOfRange (year : Int)
  | noStamp (instant : Instant)
  | blankZone
  | unknownZone (id : Text)
  | longNumeral (digits : Nat)
  | longYear
deriving DecidableEq

/-- The kinds of failure that a user is told about. -/
inductive Category
  | general
  | expression
  | duration
  | unit
  | range
  | zone
  | configuration
  | settings
deriving DecidableEq

/-- A detail of a failure that is told by name. -/
inductive Detail
  | text (value : Text)
  | number (value : Int)
deriving DecidableEq

def Detail.toText : Detail → String
  | text value => value.string
  | number value => String.ofList (decimal value)

namespace Failure

/-- Numbers of too many digits belong to no kind: they are refused by size, not by meaning. -/
def category? : Failure → Option Category
  | blankText | unreadable _ | invalidDate .. | invalidTime .. | invalidOffset _ => some .expression
  | malformedDuration _ => some .duration
  | unknownUnit .. => some .unit
  | wideYear _ | yearOutOfRange _ | noStamp _ => some .range
  | blankZone | unknownZone _ => some .zone
  | longNumeral _ | longYear => none

private def overLimit (excess : String) : String :=
  "Exceeds the limit (4300 digits) for integer string conversion" ++ excess
    ++ "; use sys.set_int_max_str_digits() to increase the limit"

private def quote (text : Text) : String :=
  String.ofList text.quoted

def message : Failure → String
  | blankText => "cannot parse empty string"
  | unreadable text => "illegal time expression " ++ quote text
  | invalidDate text fault => "invalid date " ++ quote text ++ ": " ++ fault.message
  | invalidTime text fault => "invalid time " ++ quote text ++ ": " ++ fault.message
  | invalidOffset text => "invalid offset in " ++ quote text
  | wideYear text => "year in " ++ quote text ++ " has more than four digits"
  | malformedDuration text =>
    "illegal duration, should match [-]<digits><unit>: " ++ quote text
  | unknownUnit _ code =>
    "illegal time unit " ++ quote code ++ ", should be one of ["
      ++ String.intercalate "|" (TimeUnit.all.map TimeUnit.code) ++ "]"
  | yearOutOfRange year =>
    "year " ++ String.ofList (decimal year) ++ " outside supported range -9999..9999"
  | noStamp instant =>
    String.ofList instant.isoForm ++ " cannot be represented as a datetime"
  | blankZone => "empty zone id"
  | unknownZone id => "unknown time zone " ++ quote id
  | longNumeral digits =>
    overLimit (": value has " ++ String.ofList (decimal digits) ++ " digits")
  | longYear => overLimit ""

def details : Failure → List (String × Detail)
  | unreadable text | invalidDate text _ | invalidTime text _ | invalidOffset text | wideYear text
  | malformedDuration text => [("text", .text text)]
  | unknownUnit text code => [("text", .text text), ("unit", .text code)]
  | yearOutOfRange year => [("year", .number year)]
  | noStamp instant => [("epoch_millis", .number instant.epochMillis)]
  | unknownZone id => [("zone", .text id)]
  | blankText | blankZone | longNumeral _ | longYear => []

end Failure

end Almanac
