import Almanac.Text.Blank
import Almanac.Text.CodeUnit

namespace Almanac

/-- A code unit that stands for a character only together with another one. -/
structure Surrogate where
  unit : UInt16
  half : (isHighSurrogate unit || isLowSurrogate unit) = true
deriving DecidableEq

/-- A character of a text, or a surrogate by itself. -/
inductive Symbol
  | char (c : Char)
  | surrogate (s : Surrogate)
deriving DecidableEq

namespace Symbol

/-- The character as which a symbol is read. A surrogate is no digit, letter, mark or white space,
and neither is the first private character. -/
def reading : Symbol → Char
  | char c => c
  | surrogate _ => Char.ofNat 0xE000

def isBlank (s : Symbol) : Bool :=
  Almanac.isBlank s.reading

def units : Symbol → List UInt16
  | char c => unitsOf c
  | surrogate s => [s.unit]

/-- The symbol of a code unit by itself. -/
def ofUnit (u : UInt16) : Symbol :=
  if half : (isHighSurrogate u || isLowSurrogate u) = true then surrogate ⟨u, half⟩
  else char (Char.ofNat u.toNat)

theorem units_ofUnit (u : UInt16) : (ofUnit u).units = [u] := by
  unfold ofUnit
  split
  · rfl
  next plain => exact unitsOf_ofNat (eq_false_of_ne_true plain)

end Symbol

/-- The symbols of code units. A high surrogate makes one symbol with the low one after it. -/
def symbolsOf : List UInt16 → List Symbol
  | [] => []
  | [u] => [.ofUnit u]
  | u :: v :: rest =>
    if isHighSurrogate u && isLowSurrogate v then .char (pairedChar u v) :: symbolsOf rest
    else .ofUnit u :: symbolsOf (v :: rest)

/-- No code unit is lost in symbols. -/
theorem flatMap_units_symbolsOf (us : List UInt16) : (symbolsOf us).flatMap Symbol.units = us := by
  fun_induction symbolsOf us with
  | case1 => rfl
  | case2 u => simp [Symbol.units_ofUnit]
  | case3 u v rest h ih =>
    simp only [Bool.and_eq_true] at h
    simp [Symbol.units, unitsOf_pairedChar h.1 h.2, ih]
  | case4 u v rest h ih => simp [Symbol.units_ofUnit, ih]

/-- Symbols without the blank ones at their ends. -/
def trimSymbols : List Symbol → List Symbol :=
  trimBy Symbol.isBlank

/-- A text of characters and surrogates. A high surrogate and a low one after it are two symbols,
and not the character for which they stand together. -/
structure Text where ofSymbols ::
  symbols : List Symbol
deriving DecidableEq

namespace Text

def ofChars (cs : List Char) : Text :=
  ⟨cs.map .char⟩

def ofString (s : String) : Text :=
  ofChars s.toList

instance : Coe String Text := ⟨ofString⟩

/-- The text of code units, in which the surrogates of a pair are one character. -/
def ofUnits (us : List UInt16) : Text :=
  ⟨symbolsOf us⟩

def units (t : Text) : List UInt16 :=
  t.symbols.flatMap Symbol.units

/-- The characters as which a text is read. -/
def chars (t : Text) : List Char :=
  t.symbols.map Symbol.reading

def string (t : Text) : String :=
  String.ofList t.chars

theorem units_ofUnits (us : List UInt16) : (ofUnits us).units = us :=
  flatMap_units_symbolsOf us

theorem symbols_ofChars (cs : List Char) : (ofChars cs).symbols = cs.map .char :=
  rfl

theorem chars_ofChars (cs : List Char) : (ofChars cs).chars = cs := by
  simp [chars, symbols_ofChars, Function.comp_def, Symbol.reading]

theorem ofString_ofList (cs : List Char) : ofString (String.ofList cs) = ofChars cs :=
  congrArg ofChars String.toList_ofList

theorem string_ofString (s : String) : (ofString s).string = s := by
  simp [string, ofString, chars_ofChars]

end Text

end Almanac
