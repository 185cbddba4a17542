import Almanac.Proofs.Trimming
import Mathlib.Data.List.Chain

namespace Almanac

namespace Symbol

def startsPair : Symbol → Bool
  | char _ => false
  | surrogate s => isHighSurrogate s.unit

def endsPair : Symbol → Bool
  | char _ => false
  | surrogate s => isLowSurrogate s.unit

/-- Two symbols on end that are not read as one character where code units are all that counts. -/
def Apart (s t : Symbol) : Prop :=
  (s.startsPair && t.endsPair) = false

instance (s t : Symbol) : Decidable (s.Apart t) :=
  inferInstanceAs (Decidable (_ = _))

theorem ofUnit_unit (s : Surrogate) : ofUnit s.unit = surrogate s :=
  dif_pos s.half

theorem startsPair_ofUnit (u : UInt16) : (ofUnit u).startsPair = isHighSurrogate u := by
  unfold ofUnit
  split
  · rfl
  next plain => exact (Bool.or_eq_false_iff.mp (eq_false_of_ne_true plain)).1.symm

theorem endsPair_ofUnit (u : UInt16) : (ofUnit u).endsPair = isLowSurrogate u := by
  unfold ofUnit
  split
  · rfl
  next plain => exact (Bool.or_eq_false_iff.mp (eq_false_of_ne_true plain)).2.symm

/-- The first code unit of a symbol shows whether the symbol ends a pair. -/
theorem exists_units (s : Symbol) :
    ∃ u more, s.units = u :: more ∧ isLowSurrogate u = s.endsPair := by
  cases s with
  | char c =>
    rcases unitsOf_cases c with ⟨u, units, -, low, -⟩ | ⟨u, v, units, high, -, -⟩
    · exact ⟨u, [], units, low⟩
    · refine ⟨u, [v], units, ?_⟩
      simp only [isHighSurrogate, Bool.and_eq_true, decide_eq_true_eq] at high
      simp only [endsPair, isLowSurrogate, Bool.and_eq_false_iff, decide_eq_false_iff_not]
      omega
  | surrogate s => exact ⟨s.unit, [], rfl, rfl⟩

end Symbol

theorem symbolsOf_cons {u : UInt16} {rest : List UInt16}
    (apart : ∀ v ∈ rest.head?, (isHighSurrogate u && isLowSurrogate v) = false) :
    symbolsOf (u :: rest) = .ofUnit u :: symbolsOf rest := by
  cases rest with
  | nil => rfl
  | cons v rest =>
    have := apart v rfl
    simp [symbolsOf, this]

/-- The code units of a symbol give it back before others that do not begin with the other half of a
pair. -/
theorem symbolsOf_units_append (s : Symbol) {rest : List UInt16}
    (apart : ∀ v ∈ rest.head?, (s.startsPair && isLowSurrogate v) = false) :
    symbolsOf (s.units ++ rest) = s :: symbolsOf rest := by
  cases s with
  | char c =>
    rcases unitsOf_cases c with ⟨u, units, high, low, code⟩ | ⟨u, v, units, high, low, code⟩
    · have plain : Symbol.ofUnit u = .char c := by
        rw [Symbol.ofUnit, dif_neg (by simp [high, low]), code]
      rw [Symbol.units, units, List.singleton_append, symbolsOf_cons (by simp [high]), plain]
    · simp only [Symbol.units, units, List.cons_append, List.nil_append, symbolsOf, high, low,
        Bool.and_self, if_true, code]
  | surrogate s =>
    rw [Symbol.units, List.singleton_append, symbolsOf_cons apart, Symbol.ofUnit_unit]

/-- What code units are read as never leaves the halves of a pair next to each other. -/
theorem isChain_symbolsOf (us : List UInt16) : (symbolsOf us).IsChain Symbol.Apart := by
  fun_induction symbolsOf us with
  | case1 => exact .nil
  | case2 u => exact .singleton _
  | case3 u v rest pair ih => exact ih.cons fun _ _ => rfl
  | case4 u v rest apart ih =>
    refine ih.cons fun next first => ?_
    unfold symbolsOf at first
    split at first
    · cases first
    next w code =>
      cases code
      cases first
      rw [Symbol.Apart, Symbol.startsPair_ofUnit, Symbol.endsPair_ofUnit]
      exact eq_false_of_ne_true apart
    next w w' rest' code =>
      cases code
      split at first
      · cases first
        rw [Symbol.Apart, Symbol.endsPair, Bool.and_false]
      · cases first
        rw [Symbol.Apart, Symbol.startsPair_ofUnit, Symbol.endsPair_ofUnit]
        exact eq_false_of_ne_true apart

/-- White space is far below the surrogates. -/
theorem toNat_lt_of_isBlank {c : Char} (h : isBlank c = true) : c.toNat < 0x3001 := by
  simp only [isBlank, Bool.or_eq_true, Bool.and_eq_true, decide_eq_true_eq, beq_iff_eq] at h
  omega

/-- A code unit that is white space by itself. -/
def isBlankUnit (u : UInt16) : Bool :=
  isBlank (Char.ofNat u.toNat)

theorem not_isBlankUnit {u : UInt16} (half : (isHighSurrogate u || isLowSurrogate u) = true) :
    isBlankUnit u = false := by
  have invalid : ¬ u.toNat.isValidChar := by
    simp only [isHighSurrogate, isLowSurrogate, Bool.or_eq_true, Bool.and_eq_true,
      decide_eq_true_eq] at half
    simp only [Nat.isValidChar]
    omega
  rw [isBlankUnit, Char.ofNat, dif_neg invalid]
  rfl

/-- A symbol is white space just if its code units are. -/
theorem Symbol.isBlank_eq_all (s : Symbol) : s.isBlank = s.units.all isBlankUnit := by
  cases s with
  | char c =>
    rcases unitsOf_cases c with ⟨u, units, -, -, code⟩ | ⟨u, v, units, high, -, -⟩
    · simp [isBlank, reading, Symbol.units, units, isBlankUnit, code]
    · have wide : ¬ c.toNat < 0x10000 := by
        intro narrow
        rw [unitsOf, if_pos narrow] at units
        cases units
      have visible : Almanac.isBlank c = false := by
        rw [← Bool.not_eq_true]
        intro blank
        have := toNat_lt_of_isBlank blank
        omega
      have half : isBlankUnit u = false := not_isBlankUnit (by simp [high])
      simp [isBlank, reading, visible, Symbol.units, units, half]
  | surrogate s =>
    have visible : (surrogate s).isBlank = false :=
      show Almanac.isBlank (Char.ofNat 0xE000) = false by decide
    rw [visible, Symbol.units, List.all_cons, not_isBlankUnit s.half, Bool.false_and]

namespace Text

variable {t : Text}

/-- The text that is left of a text when only its code units are kept: surrogates that make a pair
become the character of the pair. -/
def joined (t : Text) : Text :=
  ofUnits t.units

/-- A text in which no high surrogate stands right before a low one. -/
def Whole (t : Text) : Prop :=
  t.symbols.IsChain Symbol.Apart

instance (t : Text) : Decidable t.Whole :=
  inferInstanceAs (Decidable (List.IsChain _ _))

theorem whole_ofUnits (us : List UInt16) : (ofUnits us).Whole :=
  isChain_symbolsOf us

theorem whole_joined (t : Text) : t.joined.Whole :=
  whole_ofUnits t.units

theorem units_joined (t : Text) : t.joined.units = t.units :=
  units_ofUnits t.units

theorem symbolsOf_flatMap_units {symbols : List Symbol} (h : symbols.IsChain Symbol.Apart) :
    symbolsOf (symbols.flatMap Symbol.units) = symbols := by
  induction symbols with
  | nil => rfl
  | cons s symbols ih =>
    rw [List.isChain_cons] at h
    rw [List.flatMap_cons, symbolsOf_units_append, ih h.2]
    intro v first
    cases symbols with
    | nil => cases first
    | cons next others =>
      obtain ⟨u, more, units, low⟩ := next.exists_units
      rw [List.flatMap_cons, units] at first
      cases first
      rw [low]
      exact h.1 next rfl

/-- Nothing is joined in a whole text, and in no other. -/
theorem joined_eq_self_iff : t.joined = t ↔ t.Whole := by
  constructor
  · intro same
    rw [← same]
    exact t.whole_joined
  · intro whole
    exact congrArg ofSymbols (symbolsOf_flatMap_units whole)

/-- Joining surrogates neither takes white space away nor adds any. -/
theorem trim_chars_joined_eq_nil_iff : trim t.joined.chars = [] ↔ trim t.chars = [] := by
  have blank (t : Text) : trim t.chars = [] ↔ t.units.all isBlankUnit = true := by
    have units : t.units.all isBlankUnit = t.symbols.all Symbol.isBlank := by
      rw [Text.units, List.all_flatMap, funext Symbol.isBlank_eq_all]
    rw [units, List.all_eq_true]
    exact trimBy_eq_nil_iff.trans List.forall_mem_map
  rw [blank, blank, units_joined]

theorem whole_ofChars (cs : List Char) : (ofChars cs).Whole := by
  rw [Whole, symbols_ofChars, List.isChain_map]
  exact (List.pairwise_of_forall fun _ _ => rfl).isChain

end Text

end Almanac
