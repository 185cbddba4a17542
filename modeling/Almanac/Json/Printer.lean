import Almanac.Json.Basic
import Almanac.Text.Numeral

namespace Almanac

/-- A code unit as it is written inside a string. All but the printable characters of ASCII are
escaped. -/
def unitText (u : UInt16) : List Char :=
  let c := Char.ofNat u.toNat
  if c = '\x22' ∨ c = '\\' then ['\\', c]
  else if c = '\n' then ['\\', 'n']
  else if c = '\r' then ['\\', 'r']
  else if c = '\t' then ['\\', 't']
  else if c = '\x08' then ['\\', 'b']
  else if c = '\x0c' then ['\\', 'f']
  else if 0x20 ≤ u.toNat ∧ u.toNat < 0x7F then [c]
  else '\\' :: 'u' :: hexadecimal 4 u.toNat

def jsonString (text : Text) : List Char :=
  '\x22' :: text.units.flatMap unitText ++ ['\x22']

namespace Json

mutual

/-- The text of a value on one line, with a space after each comma and colon. -/
def line : Json → List Char
  | null => "null".toList
  | bool true => "true".toList
  | bool false => "false".toList
  | integer value => decimal value
  | real numeral => numeral.toList
  | string value => jsonString value
  | array items => '[' :: itemsLine items ++ [']']
  | object members => '{' :: membersLine members ++ ['}']

def itemsLine : List Json → List Char
  | [] => []
  | [item] => line item
  | item :: rest => line item ++ ',' :: ' ' :: itemsLine rest

def membersLine : List (String × Json) → List Char
  | [] => []
  | [(key, value)] => jsonString key ++ ':' :: ' ' :: line value
  | (key, value) :: rest =>
    jsonString key ++ ':' :: ' ' :: line value ++ ',' :: ' ' :: membersLine rest

end

/-- A new line that begins `depth` levels from the left. -/
def newLine (depth : Nat) : List Char :=
  '\n' :: List.replicate (2 * depth) ' '

mutual

/-- The text of a value with each item and each member on a line of its own, two spaces further to
the right than the value they belong to. -/
def indented (depth : Nat) : Json → List Char
  | array [] => "[]".toList
  | array items => '[' :: itemsIndented (depth + 1) items ++ newLine depth ++ [']']
  | object [] => ['{', '}']
  | object members => '{' :: membersIndented (depth + 1) members ++ newLine depth ++ ['}']
  | value => line value

def itemsIndented (depth : Nat) : List Json → List Char
  | [] => []
  | [item] => newLine depth ++ indented depth item
  | item :: rest => newLine depth ++ indented depth item ++ ',' :: itemsIndented depth rest

def membersIndented (depth : Nat) : List (String × Json) → List Char
  | [] => []
  | [(key, value)] => newLine depth ++ jsonString key ++ ':' :: ' ' :: indented depth value
  | (key, value) :: rest =>
    newLine depth ++ jsonString key ++ ':' :: ' ' :: indented depth value
      ++ ',' :: membersIndented depth rest

end

end Json

end Almanac
