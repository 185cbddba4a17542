import Almanac.Text.Blank
import Almanac.Text.DecimalDigit
import Almanac.Text.Numeral
import Almanac.Zone.Offset
import Mathlib.Algebra.Group.Nat.Defs
import Mathlib.Data.List.Basic
import Mathlib.Data.List.Induction
import Mathlib.Tactic.ByContra
import Mathlib.Tactic.Ring

namespace Almanac

theorem isDigit_iff {c : Char} : c.isDigit = true ↔ 48 ≤ c.toNat ∧ c.toNat ≤ 57 :=
  Char.isDigit_iff_toNat

theorem isBlank_of_isDigit {c : Char} (h : c.isDigit = true) : isBlank c = false := by
  have := isDigit_iff.mp h
  simp only [isBlank, Bool.or_eq_false_iff, Bool.and_eq_false_iff, decide_eq_false_iff_not,
    beq_eq_false_iff_ne]
  omega

/-- The digits 0 to 9 come first among those of all scripts. -/
theorem digitValue?_of_isDigit {c : Char} (h : c.isDigit = true) :
    digitValue? c = some (c.toNat - 48) := by
  have range := isDigit_iff.mp h
  have first : (decide (0x30 ≤ c.toNat) && decide (c.toNat < 0x30 + 10)) = true := by
    simp only [Bool.and_eq_true, decide_eq_true_eq]
    omega
  unfold digitValue? digitZeros
  rw [List.find?_cons, first]
  rfl

theorem isDecimalDigit_of_isDigit {c : Char} (h : c.isDigit = true) : isDecimalDigit c = true := by
  simp [isDecimalDigit, digitValue?_of_isDigit h]

theorem isBlank_of_isDecimalDigit {c : Char} (h : isDecimalDigit c = true) : isBlank c = false := by
  have apart : ∀ start ∈ digitZeros, start = 0x30 ∨ 0x660 ≤ start
      ∧ (start + 10 ≤ 0x1680 ∨ 0x1680 < start) ∧ (start + 10 ≤ 0x2000 ∨ 0x3000 < start) := by
    decide
  obtain ⟨n, value⟩ := Option.isSome_iff_exists.mp h
  obtain ⟨start, found, -⟩ := Option.map_eq_some_iff.mp value
  have gap := apart start (List.mem_of_find?_eq_some found)
  have range := List.find?_some found
  simp only [Bool.and_eq_true, decide_eq_true_eq] at range
  simp only [isBlank, Bool.or_eq_false_iff, Bool.and_eq_false_iff, decide_eq_false_iff_not,
    beq_eq_false_iff_ne]
  omega

theorem sign?_of_isDecimalDigit {c : Char} (h : isDecimalDigit c = true) (rest : List Char) :
    sign? (c :: rest) = none := by
  unfold sign?
  split
  next plus =>
    cases plus
    cases h
  next minus =>
    cases minus
    cases h
  · rfl

theorem digitValue?_lt {c : Char} {n : Nat} (h : digitValue? c = some n) : n < 10 := by
  obtain ⟨start, found, rfl⟩ := Option.map_eq_some_iff.mp h
  have := List.find?_some found
  simp only [Bool.and_eq_true, decide_eq_true_eq] at this
  omega

theorem digitsValue_append (xs ys : List Char) :
    digitsValue (xs ++ ys) = ys.foldl (fun n c => 10 * n + (digitValue? c).getD 0) (digitsValue xs) :=
  List.foldl_append

theorem digitsValue_concat (xs : List Char) (c : Char) :
    digitsValue (xs ++ [c]) = 10 * digitsValue xs + (digitValue? c).getD 0 :=
  digitsValue_append xs [c]

/-- Digits count tenfold for each digit after them. -/
theorem digitsValue_append_eq (xs ys : List Char) :
    digitsValue (xs ++ ys) = digitsValue xs * 10 ^ ys.length + digitsValue ys := by
  induction ys using List.reverseRecOn with
  | nil => simp [digitsValue]
  | append_singleton ys c ih =>
    rw [← List.append_assoc, digitsValue_concat, ih, digitsValue_concat, List.length_append,
      List.length_singleton, Nat.pow_succ]
    ring

theorem digitsValue_zeros (n : Nat) : digitsValue (List.replicate n '0') = 0 := by
  induction n with
  | zero => rfl
  | succ n ih =>
    rw [List.replicate_succ', digitsValue_concat, ih]
    rfl

theorem digitsValue_lt (xs : List Char) : digitsValue xs < 10 ^ xs.length := by
  induction xs using List.reverseRecOn with
  | nil => decide
  | append_singleton xs c ih =>
    have digit : (digitValue? c).getD 0 < 10 := by
      cases h : digitValue? c with
      | none => decide
      | some n => exact digitValue?_lt h
    rw [digitsValue_concat, List.length_append, List.length_singleton, Nat.pow_succ]
    omega

theorem digitsValue_eq_ofDigitChars {xs : List Char} (h : ∀ c ∈ xs, c.isDigit = true) :
    digitsValue xs = Nat.ofDigitChars 10 xs 0 := by
  unfold digitsValue Nat.ofDigitChars
  apply List.foldl_ext
  intro n c mem
  rw [digitValue?_of_isDigit (h c mem)]
  rfl

theorem isDigit_of_mem_toDigits {n : Nat} {c : Char} (h : c ∈ Nat.toDigits 10 n) :
    c.isDigit = true :=
  Nat.isDigit_of_mem_toDigits (by decide) (by decide) h

theorem isDigit_of_mem_padded {width n : Nat} {c : Char} (h : c ∈ padded width n) :
    c.isDigit = true := by
  rcases List.mem_append.mp h with zero | digit
  · rw [List.eq_of_mem_replicate zero]
    rfl
  · exact isDigit_of_mem_toDigits digit

theorem digitsValue_padded (width n : Nat) : digitsValue (padded width n) = n := by
  rw [digitsValue_eq_ofDigitChars fun _ => isDigit_of_mem_padded, padded, Nat.ofDigitChars_append,
    Nat.ofDigitChars_replicate_zero, Nat.mul_zero]
  exact Nat.ofDigitChars_ten_toDigits

theorem digitsValue_toDigits (n : Nat) : digitsValue (Nat.toDigits 10 n) = n := by
  rw [← padded_of_le (Nat.zero_le _), digitsValue_padded]

/-- No number but zero begins with the digit zero. -/
theorem toDigits_of_head_zero {n : Nat} (zero : (Nat.toDigits 10 n).head? = some '0') :
    Nat.toDigits 10 n = ['0'] := by
  obtain ⟨tail, digits⟩ : ∃ tail, Nat.toDigits 10 n = '0' :: tail := List.head?_eq_some_iff.mp zero
  have value := digitsValue_toDigits n
  have small := digitsValue_lt tail
  have dropped : digitsValue ('0' :: tail) = digitsValue tail := by
    have apart := digitsValue_append_eq ['0'] tail
    rwa [show digitsValue ['0'] = 0 from rfl, Nat.zero_mul, Nat.zero_add] at apart
  rw [digits, dropped] at value
  cases tail with
  | nil => exact digits
  | cons d tail =>
    have length := (Nat.length_toDigits_le_iff (b := 10) (by decide) (Nat.succ_pos tail.length)).mpr
      (value ▸ small)
    rw [digits] at length
    simp at length

theorem length_padded {width n : Nat} (positive : 0 < width) (h : n < 10 ^ width) :
    (padded width n).length = width := by
  have := (Nat.length_toDigits_le_iff (b := 10) (by decide) positive).mpr h
  simp only [padded, List.length_append, List.length_replicate]
  omega

/-- There is room for a number in a field of so many digits. -/
def Fits (width : Nat) (n : Int) : Prop :=
  0 ≤ n ∧ n < 10 ^ width

theorem Fits.toNat_lt {width : Nat} {n : Int} (h : Fits width n) : n.toNat < 10 ^ width := by
  rw [Int.toNat_lt h.1, Int.natCast_pow]
  exact h.2

theorem Fits.length_padded {width : Nat} {n : Int} (h : Fits width n) (positive : 0 < width) :
    (padded width n.toNat).length = width :=
  Almanac.length_padded positive h.toNat_lt

theorem lt_length_padded {width n : Nat} (h : 10 ^ width ≤ n) : width < (padded width n).length := by
  by_contra short
  have value := digitsValue_lt (padded width n)
  rw [digitsValue_padded] at value
  have := Nat.pow_le_pow_right (show 0 < 10 by decide) (Nat.le_of_not_lt short)
  omega

theorem pair?_cons {a b : Char} (ha : isDecimalDigit a = true) (hb : isDecimalDigit b = true)
    (rest : List Char) : pair? (a :: b :: rest) = some (digitsValue [a, b], rest) := by
  obtain ⟨x, hx⟩ := Option.isSome_iff_exists.mp ha
  obtain ⟨y, hy⟩ := Option.isSome_iff_exists.mp hb
  simp [pair?, digitsValue, hx, hy]

theorem pair?_padded {n : Nat} (h : n < 100) (rest : List Char) :
    pair? (padded 2 n ++ rest) = some (n, rest) := by
  obtain ⟨a, b, digits⟩ := List.length_eq_two.mp (length_padded (by decide) h)
  have ha := isDecimalDigit_of_isDigit (@isDigit_of_mem_padded 2 n a (by simp [digits]))
  have hb := isDecimalDigit_of_isDigit (@isDigit_of_mem_padded 2 n b (by simp [digits]))
  have value := digitsValue_padded 2 n
  rw [digits] at value ⊢
  rw [List.cons_append, List.cons_append, List.nil_append, pair?_cons ha hb, value]

theorem takeWhile_until {xs rest : List Char} {p : Char → Bool} (digits : ∀ c ∈ xs, p c = true)
    (stop : ∀ c ∈ rest.head?, p c = false) : (xs ++ rest).takeWhile p = xs := by
  rw [List.takeWhile_append_of_pos digits]
  cases rest with
  | nil => simp
  | cons mark rest => simp [stop mark rfl]

theorem dropWhile_until {xs rest : List Char} {p : Char → Bool} (digits : ∀ c ∈ xs, p c = true)
    (stop : ∀ c ∈ rest.head?, p c = false) : (xs ++ rest).dropWhile p = rest := by
  rw [List.dropWhile_append_of_pos digits]
  cases rest with
  | nil => rfl
  | cons mark rest => simp [stop mark rfl]

theorem takeWhile_digits {xs rest : List Char} {p : Char → Bool} {mark : Char}
    (digits : ∀ c ∈ xs, p c = true) (stop : p mark = false) :
    (xs ++ mark :: rest).takeWhile p = xs :=
  takeWhile_until digits (by simpa using stop)

theorem dropWhile_digits {xs rest : List Char} {p : Char → Bool} {mark : Char}
    (digits : ∀ c ∈ xs, p c = true) (stop : p mark = false) :
    (xs ++ mark :: rest).dropWhile p = mark :: rest :=
  dropWhile_until digits (by simpa using stop)

end Almanac
