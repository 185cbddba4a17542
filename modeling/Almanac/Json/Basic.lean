import Almanac.Text.Basic

namespace Almanac

/-- A value of the JSON data format. Members keep the order in which they are written, and a number
with a fraction or an exponent its numeral. A string may hold surrogates. -/
inductive Json
  | null
  | bool (value : Bool)
  | integer (value : Int)
  | real (numeral : String)
  | string (value : Text)
  | array (items : List Json)
  | object (members : List (String × Json))

/-- Why a text is not read as JSON. -/
inductive JsonFault
  | malformed
  | longNumeral (digits : Nat)
deriving DecidableEq

/-- The value of a name among members. Of several the last one counts. -/
def member? (name : String) : List (String × Json) → Option Json
  | [] => none
  | (key, value) :: rest =>
    match member? name rest with
    | some later => some later
    | none => if key = name then some value else none

end Almanac
