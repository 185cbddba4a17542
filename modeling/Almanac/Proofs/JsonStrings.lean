import Almanac.Json.Printer
import Almanac.Json.Reader

namespace Almanac

/-- The last hexadecimal digit stands after those of the number without it. -/
theorem hexadecimal_succ {width : Nat} (positive : 0 < width) (n : Nat) :
    hexadecimal (width + 1) n = hexadecimal width (n / 16) ++ [(n % 16).digitChar] := by
  unfold hexadecimal
  rcases Nat.lt_or_ge n 16 with small | large
  · have zeros : List.replicate width '0' = List.replicate (width - 1) '0' ++ ['0'] := by
      rw [← List.replicate_succ', Nat.sub_add_cancel positive]
    rw [Nat.div_eq_of_lt small, Nat.mod_eq_of_lt small, Nat.toDigits_of_lt_base small,
      Nat.toDigits_zero, List.length_singleton, List.length_singleton, Nat.add_sub_cancel, zeros]
  · rw [Nat.toDigits_of_base_le (by decide) large, List.length_append, List.length_singleton,
      Nat.add_sub_add_right, List.append_assoc]

theorem hexadecimal_one {n : Nat} (h : n < 16) : hexadecimal 1 n = [n.digitChar] := by
  unfold hexadecimal
  rw [Nat.toDigits_of_lt_base h]
  rfl

theorem hexValue?_digitChar {n : Nat} (h : n < 16) : hexValue? n.digitChar = some n := by
  have all : ∀ k < 16, hexValue? k.digitChar = some k := by decide
  exact all n h

theorem hexadecimal_four {n : Nat} (h : n < 0x10000) :
    hexadecimal 4 n = [(n / 16 / 16 / 16).digitChar, (n / 16 / 16 % 16).digitChar,
      (n / 16 % 16).digitChar, (n % 16).digitChar] := by
  rw [hexadecimal_succ (by decide), hexadecimal_succ (by decide), hexadecimal_succ (by decide),
    hexadecimal_one (by omega)]
  rfl

theorem codeUnit?_hexadecimal {n : Nat} (h : n < 0x10000) (rest : List Char) :
    codeUnit? (hexadecimal 4 n ++ rest) = some (.ofNat n, rest) := by
  have value : ((n / 16 / 16 / 16 * 16 + n / 16 / 16 % 16) * 16 + n / 16 % 16) * 16 + n % 16 = n := by
    omega
  rw [hexadecimal_four h]
  simp only [List.cons_append, List.nil_append, codeUnit?]
  rw [hexValue?_digitChar (by omega), hexValue?_digitChar (by omega), hexValue?_digitChar (by omega),
    hexValue?_digitChar (by omega)]
  dsimp only
  rw [value]

theorem stringTail?_escape {text rest : List Char} {u : UInt16} (h : escape? text = some (u, rest))
    (bound : Nat) :
    stringTail? (bound + 1) ('\\' :: text)
      = (stringTail? bound rest).map fun (units, rest) => (u :: units, rest) := by
  rw [stringTail?, if_neg (by decide), if_pos rfl, h]
  dsimp only
  cases stringTail? bound rest <;> rfl

theorem stringTail?_char {c : Char} (quote : c ≠ '\x22') (backslash : c ≠ '\\')
    (printable : 0x20 ≤ c.toNat) (bound : Nat) (rest : List Char) :
    stringTail? (bound + 1) (c :: rest)
      = (stringTail? bound rest).map fun (units, rest) => (unitsOf c ++ units, rest) := by
  rw [stringTail?, if_neg quote, if_neg backslash, if_neg (Nat.not_lt.mpr printable)]
  cases stringTail? bound rest <;> rfl

/-- What is written for a code unit is read back before any rest of a string. -/
theorem stringTail?_unitText (u : UInt16) (bound : Nat) (rest : List Char) :
    stringTail? (bound + 1) (unitText u ++ rest)
      = (stringTail? bound rest).map fun (units, rest) => (u :: units, rest) := by
  -- The escapes of one letter each stand for one character.
  have short {c letter : Char} (same : Char.ofNat u.toNat = c) (nonzero : c ≠ '\x00')
      (read : escape? (letter :: rest) = some (.ofNat c.toNat, rest)) :
      stringTail? (bound + 1) ('\\' :: letter :: rest)
        = (stringTail? bound rest).map fun (units, rest) => (u :: units, rest) := by
    rw [← toNat_of_ofNat_eq same nonzero, UInt16.ofNat_toNat] at read
    exact stringTail?_escape read bound
  unfold unitText
  dsimp only
  split
  next special =>
    rcases special with quote | backslash
    · rw [quote]
      exact short quote (by decide) rfl
    · rw [backslash]
      exact short backslash (by decide) rfl
  next plain =>
    split
    next newline => exact short newline (by decide) rfl
    split
    next return_ => exact short return_ (by decide) rfl
    split
    next tab => exact short tab (by decide) rfl
    split
    next backspace => exact short backspace (by decide) rfl
    split
    next feed => exact short feed (by decide) rfl
    split
    next ascii =>
      obtain ⟨quote, backslash⟩ := not_or.mp plain
      have code : (Char.ofNat u.toNat).toNat = u.toNat :=
        toNat_ofNat_char (by simp only [Nat.isValidChar]; omega)
      have units : unitsOf (Char.ofNat u.toNat) = [u] := by
        rw [unitsOf, if_pos (by omega), code, UInt16.ofNat_toNat]
      have read := stringTail?_char quote backslash (by omega) bound rest
      rw [units] at read
      exact read
    · have read := codeUnit?_hexadecimal u.toNat_lt rest
      rw [UInt16.ofNat_toNat] at read
      exact @stringTail?_escape ('u' :: _) _ _ read bound

theorem stringTail?_flatMap_unitText (units : List UInt16) {bound : Nat} (room : units.length < bound)
    (rest : List Char) :
    stringTail? bound (units.flatMap unitText ++ '\x22' :: rest) = some (units, rest) := by
  induction units generalizing bound with
  | nil =>
    obtain ⟨less, rfl⟩ := Nat.exists_eq_succ_of_ne_zero (Nat.ne_of_gt room)
    rfl
  | cons u units ih =>
    obtain ⟨less, rfl⟩ := Nat.exists_eq_succ_of_ne_zero (Nat.ne_of_gt (Nat.zero_lt_of_lt room))
    rw [List.flatMap_cons, List.append_assoc, Nat.succ_eq_add_one, stringTail?_unitText,
      ih (Nat.lt_of_succ_lt_succ room)]
    rfl

end Almanac
