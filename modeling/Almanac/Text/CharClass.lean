namespace Almanac

/-- A set of characters, given by the code points at which membership changes, in increasing
order. -/
structure CharClass where
  switches : List Nat

def CharClass.contains (k : CharClass) (c : Char) : Bool :=
  (k.switches.takeWhile (· ≤ c.toNat)).length % 2 == 1

end Almanac
