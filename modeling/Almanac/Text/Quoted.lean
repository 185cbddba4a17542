import Almanac.Text.Basic
import Almanac.Text.Numeral
import Almanac.Text.Unprintable

namespace Almanac

/-- A character as it stands between quotation marks `mark`. -/
def escaped (mark c : Char) : List Char :=
  if c = mark ∨ c = '\\' then ['\\', c]
  else if c = '\n' then ['\\', 'n']
  else if c = '\r' then ['\\', 'r']
  else if c = '\t' then ['\\', 't']
  else if !unprintable.contains c then [c]
  else if c.toNat < 0x100 then '\\' :: 'x' :: hexadecimal 2 c.toNat
  else if c.toNat < 0x10000 then '\\' :: 'u' :: hexadecimal 4 c.toNat
  else '\\' :: 'U' :: hexadecimal 8 c.toNat

/-- A symbol as it stands between quotation marks `mark`. -/
def Symbol.escaped (mark : Char) : Symbol → List Char
  | char c => Almanac.escaped mark c
  | surrogate s => '\\' :: 'u' :: hexadecimal 4 s.unit.toNat

/-- A text between quotation marks, double ones if it holds single ones only. -/
def Text.quoted (t : Text) : List Char :=
  let symbols := t.symbols
  let mark :=
    if symbols.contains (.char '\x27') && !symbols.contains (.char '\x22') then '\x22' else '\x27'
  mark :: symbols.flatMap (Symbol.escaped mark) ++ [mark]

end Almanac
