import Almanac.Proofs.UnsignedDurations

namespace Almanac

/-- A duration to add to a text, as it is written: a sign, up to 4299 digits and the code of a unit,
with white space around them. -/
structure Addend where
  beforeSign : Blanks
  negative : Bool
  beforeDigits : Blanks
  digits : List Char
  beforeUnit : Blanks
  unit : TimeUnit
  afterUnit : Blanks
  isDigit : ∀ c ∈ digits, c.isDigit = true
  nonempty : digits ≠ []
  short : digits.length ≤ 4299

namespace Addend

def sign (a : Addend) : Char :=
  if a.negative then '-' else '+'

/-- The digits and the unit. -/
def body (a : Addend) : List Char :=
  a.digits ++ (a.beforeUnit.chars ++ a.unit.code.toList)

def chars (a : Addend) : List Char :=
  a.beforeSign.chars ++ a.sign :: (a.beforeDigits.chars ++ a.body) ++ a.afterUnit.chars

def amount (a : Addend) : Int :=
  if a.negative then -digitsValue a.digits else digitsValue a.digits

/-- The duration without its sign. -/
def unsigned (a : Addend) : UnsignedDuration :=
  ⟨a.beforeDigits, a.digits, a.beforeUnit, a.unit, a.afterUnit, a.isDigit, a.nonempty⟩

theorem chars_eq (a : Addend) :
    a.chars = a.beforeSign.chars ++ signOf a.negative :: a.unsigned.chars := by
  have whole : signOf a.negative :: a.unsigned.chars
      = a.sign :: (a.beforeDigits.chars ++ a.body) ++ a.afterUnit.chars := rfl
  rw [whole, ← List.append_assoc]
  rfl

theorem value_unsigned (a : Addend) : a.unsigned.value a.negative = .ok ⟨a.amount, a.unit⟩ := by
  have short : ¬ digitLimit < a.digits.length := by
    have := a.short
    unfold digitLimit
    omega
  exact if_neg short

end Addend

end Almanac
