import Almanac.Json.Basic
import Almanac.Text.DecimalDigit
import Almanac.Text.Numeral

namespace Almanac

/-- White space between the parts of a JSON text. -/
def isJsonSpace (c : Char) : Bool :=
  c == ' ' || c == '\t' || c == '\n' || c == '\r'

def skipSpace (text : List Char) : List Char :=
  text.dropWhile isJsonSpace

def hexValue? (c : Char) : Option Nat :=
  if c.isDigit then some (c.toNat - 0x30)
  else if 'a' ≤ c ∧ c ≤ 'f' then some (c.toNat - 0x57)
  else if 'A' ≤ c ∧ c ≤ 'F' then some (c.toNat - 0x37)
  else none

/-- A code unit of four hexadecimal digits at the head of a text. -/
def codeUnit? : List Char → Option (UInt16 × List Char)
  | a :: b :: c :: d :: rest =>
    match hexValue? a, hexValue? b, hexValue? c, hexValue? d with
    | some a, some b, some c, some d =>
      some (.ofNat (((a * 16 + b) * 16 + c) * 16 + d), rest)
    | _, _, _, _ => none
  | _ => none

/-- The code unit of an escape after its backslash, and the text after it. -/
def escape? : List Char → Option (UInt16 × List Char)
  | '\x22' :: rest => some (0x22, rest)
  | '\\' :: rest => some (0x5C, rest)
  | '/' :: rest => some (0x2F, rest)
  | 'b' :: rest => some (0x08, rest)
  | 'f' :: rest => some (0x0C, rest)
  | 'n' :: rest => some (0x0A, rest)
  | 'r' :: rest => some (0x0D, rest)
  | 't' :: rest => some (0x09, rest)
  | 'u' :: rest => codeUnit? rest
  | _ => none

/-- The code units of the rest of a string up to its closing quotation mark, and the text after
that. The number bounds the characters that are read. -/
def stringTail? : Nat → List Char → Option (List UInt16 × List Char)
  | 0, _ => none
  | _ + 1, [] => none
  | bound + 1, c :: rest =>
    if c = '\x22' then some ([], rest)
    else if c = '\\' then
      match escape? rest with
      | none => none
      | some (unit, rest) =>
        match stringTail? bound rest with
        | none => none
        | some (units, rest) => some (unit :: units, rest)
    else if c.toNat < 0x20 then none
    else
      match stringTail? bound rest with
      | none => none
      | some (units, rest) => some (unitsOf c ++ units, rest)

/-- The fraction of a number: a point and digits. Where there is none, nothing is read. -/
def fractionHead (text : List Char) : List Char × List Char :=
  match text with
  | '.' :: rest =>
    let digits := rest.takeWhile Char.isDigit
    if digits = [] then ([], text) else ('.' :: digits, rest.dropWhile Char.isDigit)
  | _ => ([], text)

/-- The exponent of a number: a letter E, perhaps a sign, and digits. -/
def exponentHead (text : List Char) : List Char × List Char :=
  match text with
  | e :: rest =>
    if e = 'e' ∨ e = 'E' then
      let (sign, body) := match rest with
        | '+' :: body => (['+'], body)
        | '-' :: body => (['-'], body)
        | _ => ([], rest)
      let digits := body.takeWhile Char.isDigit
      if digits = [] then ([], text) else (e :: sign ++ digits, body.dropWhile Char.isDigit)
    else ([], text)
  | [] => ([], text)

/-- A number at the head of a text, after the minus sign it may have. A zero is followed by no other
digit of the same integer. -/
def numberHead (negative : Bool) (text : List Char) : Except JsonFault (Json × List Char) :=
  let digits := match text with
    | '0' :: _ => ['0']
    | _ => text.takeWhile Char.isDigit
  if digits = [] then .error .malformed
  else
    let (fraction, rest) := fractionHead (text.drop digits.length)
    let (exponent, rest) := exponentHead rest
    let sign := if negative then ['-'] else []
    if fraction = [] ∧ exponent = [] then
      if digitLimit < digits.length then .error (.longNumeral digits.length)
      else
        let size : Int := digitsValue digits
        .ok (.integer (if negative then -size else size), rest)
    else .ok (.real (String.ofList (sign ++ digits ++ fraction ++ exponent)), rest)

/-- The words that stand for a value. Infinite numbers and no number at all are among them. -/
def jsonWords : List (String × Json) :=
  [("null", .null), ("true", .bool true), ("false", .bool false), ("NaN", .real "NaN"),
   ("Infinity", .real "Infinity"), ("-Infinity", .real "-Infinity")]

/-- A word or number at the head of a text. -/
def plainHead (text : List Char) : Except JsonFault (Json × List Char) :=
  match jsonWords.find? fun word => word.1.toList.isPrefixOf text with
  | some (word, value) => .ok (value, text.drop word.length)
  | none =>
    match text with
    | '-' :: rest => numberHead true rest
    | _ => numberHead false text

mutual

/-- A value at the head of a text, and the text after it. The number bounds the parts that are
read. -/
def valueHead : Nat → List Char → Except JsonFault (Json × List Char)
  | 0, _ => .error .malformed
  | bound + 1, text =>
    match text with
    | '\x22' :: rest =>
      match stringTail? rest.length rest with
      | none => .error .malformed
      | some (units, rest) => .ok (.string (.ofUnits units), rest)
    | '[' :: rest =>
      match skipSpace rest with
      | ']' :: rest => .ok (.array [], rest)
      | rest =>
        match itemsTail bound rest with
        | .error fault => .error fault
        | .ok (items, rest) => .ok (.array items, rest)
    | '{' :: rest =>
      match skipSpace rest with
      | '}' :: rest => .ok (.object [], rest)
      | rest =>
        match membersTail bound rest with
        | .error fault => .error fault
        | .ok (members, rest) => .ok (.object members, rest)
    | _ => plainHead text

/-- The rest of an array from one of its items on. -/
def itemsTail : Nat → List Char → Except JsonFault (List Json × List Char)
  | 0, _ => .error .malformed
  | bound + 1, text =>
    match valueHead bound text with
    | .error fault => .error fault
    | .ok (item, rest) =>
      match skipSpace rest with
      | ']' :: rest => .ok ([item], rest)
      | ',' :: rest =>
        match itemsTail bound (skipSpace rest) with
        | .error fault => .error fault
        | .ok (items, rest) => .ok (item :: items, rest)
      | _ => .error .malformed

/-- The rest of an object from one of its names on. -/
def membersTail : Nat → List Char → Except JsonFault (List (String × Json) × List Char)
  | 0, _ => .error .malformed
  | bound + 1, text =>
    match text with
    | '\x22' :: rest =>
      match stringTail? rest.length rest with
      | none => .error .malformed
      | some (units, rest) =>
        let name := (Text.ofUnits units).string
        match skipSpace rest with
        | ':' :: rest =>
          match valueHead bound (skipSpace rest) with
          | .error fault => .error fault
          | .ok (value, rest) =>
            match skipSpace rest with
            | '}' :: rest => .ok ([(name, value)], rest)
            | ',' :: rest =>
              match membersTail bound (skipSpace rest) with
              | .error fault => .error fault
              | .ok (members, rest) => .ok ((name, value) :: members, rest)
            | _ => .error .malformed
        | _ => .error .malformed
    | _ => .error .malformed

end

/-- The value that a whole text is. Each part that is read takes at least one character, so twice
their number is bound enough. -/
def Json.read (text : List Char) : Except JsonFault Json :=
  match valueHead (2 * text.length + 1) (skipSpace text) with
  | .error fault => .error fault
  | .ok (value, rest) => if skipSpace rest = [] then .ok value else .error .malformed

end Almanac
