namespace Almanac

/-- The decimal text of an integer. -/
def decimal (n : Int) : List Char :=
  if n < 0 then '-' :: Nat.toDigits 10 n.natAbs else Nat.toDigits 10 n.natAbs

/-- The decimal digits of a number, filled up with zeros on the left to at least `width` places. -/
def padded (width n : Nat) : List Char :=
  List.replicate (width - (Nat.toDigits 10 n).length) '0' ++ Nat.toDigits 10 n

/-- The hexadecimal digits of a number, with zeros before them up to `width` places. -/
def hexadecimal (width n : Nat) : List Char :=
  List.replicate (width - (Nat.toDigits 16 n).length) '0' ++ Nat.toDigits 16 n

/-- Integers of more digits than this are neither read from a text nor written. -/
def digitLimit : Nat := 4300

/-- An integer of more digits than are written. -/
def TooLong (n : Int) : Prop :=
  digitLimit < (Nat.toDigits 10 n.natAbs).length

instance (n : Int) : Decidable (TooLong n) :=
  inferInstanceAs (Decidable (_ < _))

theorem le_length_padded (width n : Nat) : width ≤ (padded width n).length := by
  simp only [padded, List.length_append, List.length_replicate]
  omega

theorem padded_of_le {width n : Nat} (h : width ≤ (Nat.toDigits 10 n).length) :
    padded width n = Nat.toDigits 10 n := by
  simp [padded, Nat.sub_eq_zero_of_le h]

end Almanac
