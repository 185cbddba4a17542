namespace Almanac

def isHighSurrogate (u : UInt16) : Bool :=
  0xD800 ≤ u.toNat && u.toNat < 0xDC00

def isLowSurrogate (u : UInt16) : Bool :=
  0xDC00 ≤ u.toNat && u.toNat < 0xE000

/-- The code units of a character: one, or a pair of surrogates beyond sixteen bits. -/
def unitsOf (c : Char) : List UInt16 :=
  if c.toNat < 0x10000 then [.ofNat c.toNat]
  else
    [.ofNat (0xD800 + (c.toNat - 0x10000) / 0x400), .ofNat (0xDC00 + (c.toNat - 0x10000) % 0x400)]

/-- The character of a pair of surrogates. -/
def pairedChar (high low : UInt16) : Char :=
  Char.ofNat (0x10000 + (high.toNat - 0xD800) * 0x400 + (low.toNat - 0xDC00))

theorem toNat_lt_or_le (c : Char) : c.toNat < 0xD800 ∨ 0xE000 ≤ c.toNat ∧ c.toNat < 0x110000 := by
  have h : c.toNat.isValidChar := c.valid
  simp only [Nat.isValidChar] at h
  omega

theorem toNat_unit {n : Nat} (h : n < 0x10000) : (UInt16.ofNat n).toNat = n :=
  UInt16.toNat_ofNat_of_lt h

theorem toNat_ofNat_char {n : Nat} (h : n.isValidChar) : (Char.ofNat n).toNat = n := by
  rw [Char.ofNat, dif_pos h]
  rfl

theorem toNat_of_ofNat_eq {n : Nat} {c : Char} (h : Char.ofNat n = c) (nonzero : c ≠ '\x00') :
    n = c.toNat := by
  by_cases valid : n.isValidChar
  · rw [← h, toNat_ofNat_char valid]
  · rw [Char.ofNat, dif_neg valid] at h
    exact absurd h.symm nonzero

/-- A character is one code unit that is no surrogate, or the pair of surrogates that stands for
it. -/
theorem unitsOf_cases (c : Char) :
    (∃ u, unitsOf c = [u] ∧ isHighSurrogate u = false ∧ isLowSurrogate u = false
        ∧ Char.ofNat u.toNat = c)
      ∨ ∃ high low, unitsOf c = [high, low] ∧ isHighSurrogate high = true
        ∧ isLowSurrogate low = true ∧ pairedChar high low = c := by
  have bounds := toNat_lt_or_le c
  unfold unitsOf
  split
  next narrow =>
    have code := toNat_unit narrow
    refine .inl ⟨_, rfl, ?_, ?_, ?_⟩
    · simp only [isHighSurrogate, code, Bool.and_eq_false_iff, decide_eq_false_iff_not]
      omega
    · simp only [isLowSurrogate, code, Bool.and_eq_false_iff, decide_eq_false_iff_not]
      omega
    · rw [code, Char.ofNat_toNat]
  next wide =>
    have first : (UInt16.ofNat (0xD800 + (c.toNat - 0x10000) / 0x400)).toNat
        = 0xD800 + (c.toNat - 0x10000) / 0x400 := toNat_unit (by omega)
    have second : (UInt16.ofNat (0xDC00 + (c.toNat - 0x10000) % 0x400)).toNat
        = 0xDC00 + (c.toNat - 0x10000) % 0x400 := toNat_unit (by omega)
    have value : 0x10000 + (0xD800 + (c.toNat - 0x10000) / 0x400 - 0xD800) * 0x400
        + (0xDC00 + (c.toNat - 0x10000) % 0x400 - 0xDC00) = c.toNat := by
      omega
    refine .inr ⟨_, _, rfl, ?_, ?_, ?_⟩
    · simp only [isHighSurrogate, first, Bool.and_eq_true, decide_eq_true_eq]
      omega
    · simp only [isLowSurrogate, second, Bool.and_eq_true, decide_eq_true_eq]
      omega
    · rw [pairedChar, first, second, value, Char.ofNat_toNat]

theorem unitsOf_pairedChar {high low : UInt16} (hh : isHighSurrogate high = true)
    (hl : isLowSurrogate low = true) : unitsOf (pairedChar high low) = [high, low] := by
  simp only [isHighSurrogate, isLowSurrogate, Bool.and_eq_true, decide_eq_true_eq] at hh hl
  have code : (pairedChar high low).toNat
      = 0x10000 + (high.toNat - 0xD800) * 0x400 + (low.toNat - 0xDC00) :=
    toNat_ofNat_char (by simp only [Nat.isValidChar]; omega)
  have wide : ¬ (pairedChar high low).toNat < 0x10000 := by omega
  have first : 0xD800 + ((pairedChar high low).toNat - 0x10000) / 0x400 = high.toNat := by omega
  have second : 0xDC00 + ((pairedChar high low).toNat - 0x10000) % 0x400 = low.toNat := by omega
  simp only [unitsOf, wide, if_false, first, second, UInt16.ofNat_toNat]

/-- A code unit that is no surrogate is the only one of its character. -/
theorem unitsOf_ofNat {u : UInt16} (plain : (isHighSurrogate u || isLowSurrogate u) = false) :
    unitsOf (Char.ofNat u.toNat) = [u] := by
  have bound := u.toNat_lt
  have code : (Char.ofNat u.toNat).toNat = u.toNat := by
    refine toNat_ofNat_char ?_
    simp only [isHighSurrogate, isLowSurrogate, Bool.or_eq_false_iff, Bool.and_eq_false_iff,
      decide_eq_false_iff_not] at plain
    simp only [Nat.isValidChar]
    omega
  have narrow : (Char.ofNat u.toNat).toNat < 0x10000 := by omega
  rw [unitsOf, if_pos narrow, code, UInt16.ofNat_toNat]

end Almanac
