import Almanac.Proofs.Addends
import Almanac.Proofs.ExpressionReading
import Almanac.Proofs.SumSplit

namespace Almanac

theorem Symbol.isBlank_char (c : Char) : (char c).isBlank = Almanac.isBlank c :=
  rfl

theorem Blanks.isBlank_of_mem (blanks : Blanks) :
    ∀ s ∈ blanks.chars.map Symbol.char, s.isBlank = true :=
  List.forall_mem_map.mpr blanks.blank

namespace UnsignedDuration

variable (d : UnsignedDuration) (gap : Blanks) (negative : Bool)

/-- The symbols of a duration that is added after white space, but for the white space that ends
it. -/
def written : List Symbol :=
  (gap.chars ++ signOf negative :: (d.beforeDigits.chars ++ d.body)).map .char

theorem symbols_followedBy (text : Text) :
    (text.followedBy (gap.chars ++ signOf negative :: d.chars)).symbols
      = text.symbols ++ d.written gap negative ++ d.afterUnit.chars.map .char := by
  rw [Text.symbols_followedBy]
  simp [chars, written]

theorem exists_last_written :
    ∃ c, (d.written gap negative).getLast? = some (.char c) ∧ isOpen c = true
      ∧ isBlank c = false := by
  obtain ⟨c, last, opened, visible⟩ := d.exists_last_body
  refine ⟨c, ?_, opened, visible⟩
  unfold written
  rw [List.getLast?_map, List.getLast?_append, List.getLast?_cons, List.getLast?_append, last]
  rfl

/-- White space is only kept within a text and the duration that is added to it. -/
theorem trimSymbols_followedBy {text : Text} (h : trimSymbols text.symbols ≠ []) :
    trimSymbols (text.followedBy (gap.chars ++ signOf negative :: d.chars)).symbols
      = text.symbols.dropWhile Symbol.isBlank ++ d.written gap negative := by
  obtain ⟨c, last, -, visible⟩ := d.exists_last_written gap negative
  rw [← Symbol.isBlank_char] at visible
  unfold trimSymbols
  rw [d.symbols_followedBy, trimBy_append_blank d.afterUnit.isBlank_of_mem]
  exact trimBy_append h last visible

theorem splitSum?_written {left : List Symbol} (h : left.any (!·.isBlank) = true) :
    splitSum? (left ++ d.written gap negative)
      = some ⟨trimSymbols left, signOf negative,
        trimSymbols ((d.beforeDigits.chars ++ d.body).map .char)⟩ := by
  have begins : left ++ d.written gap negative
      = (left ++ gap.chars.map .char)
        ++ .char (signOf negative) :: (d.beforeDigits.chars ++ d.body).map .char := by
    simp [written]
  have trimmed : trimSymbols (left ++ gap.chars.map .char) = trimSymbols left :=
    trimBy_append_blank gap.isBlank_of_mem
  have sign : isSign (Symbol.char (signOf negative)).reading = true := isSign_signOf negative
  have visible : (left ++ gap.chars.map Symbol.char).any (!·.isBlank) = true := by
    rw [List.any_append, h, Bool.true_or]
  have visible' : ((d.beforeDigits.chars ++ d.body).map Symbol.char).any (!·.isBlank) = true := by
    obtain ⟨first, rest, begins, digit⟩ := d.exists_first_body
    have shown := isBlank_of_isDigit digit
    rw [← Symbol.isBlank_char] at shown
    rw [List.any_eq_true]
    exact ⟨.char first, by simp [begins], by rw [shown]; rfl⟩
  have plain : ∀ s ∈ (d.beforeDigits.chars ++ d.body).map Symbol.char,
      isSign s.reading = false := by
    rw [List.forall_mem_map]
    intro c hc
    rcases List.mem_append.mp hc with blank | mem
    · exact not_isSign_of_isBlank (d.beforeDigits.blank c blank)
    · exact d.not_isSign_of_mem_body mem
  rw [begins, splitSum?_append sign visible visible' plain, trimmed]
  rfl

theorem read_trimSymbols :
    Duration.read (trimSymbols ((d.beforeDigits.chars ++ d.body).map .char)) = d.value false := by
  refine @read_of_spelled d none _ ?_
  have whole : trim (d.beforeDigits.chars ++ d.body) = trim d.chars :=
    (trimBy_append_blank d.afterUnit.blank).symm
  rw [map_reading_trimSymbols, map_reading_char, trim, trimBy_trimBy]
  exact whole

end UnsignedDuration

theorem Expression.toInstant_sum (base : Expression) (v : Duration) (zone : Zone) (now : Instant) :
    (sum base v).toInstant zone now = (base.toInstant zone now).bind fun i =>
      zone.land (v.addTo (zone.dateTime i)) (zone.offsetAt i) := by
  rw [toInstant]
  cases base.toInstant zone now <;> rfl

/-- The last duration that is added to a text is read first, and its text is evaluated without it.
The clock of the zone is moved then, and keeps its offset where it shows the time it comes to
twice. -/
theorem evaluate_sum {text : Text} (h : trimSymbols text.symbols ≠ []) (gap : Blanks)
    (negative : Bool) (d : UnsignedDuration) (zone : Zone) (now : Instant) :
    evaluate (some (text.followedBy (gap.chars ++ signOf negative :: d.chars))) zone now
      = (d.value negative).bind fun v => (evaluate (some text) zone now).bind fun i =>
        zone.land (v.addTo (zone.dateTime i)) (zone.offsetAt i) := by
  have trimmed := d.trimSymbols_followedBy gap negative h
  obtain ⟨first, rest, begins⟩ := List.exists_cons_of_ne_nil (dropWhile_ne_nil h)
  have shown : (text.symbols.dropWhile Symbol.isBlank).any (!·.isBlank) = true := any_dropWhile h
  have literal : Literal.read? ((text.symbols.dropWhile Symbol.isBlank
      ++ d.written gap negative).map Symbol.reading) = none := by
    obtain ⟨c, last, opened, -⟩ := d.exists_last_written gap negative
    refine Literal.read?_of_endsOpen ⟨c, ?_, opened⟩
    rw [List.getLast?_map, List.getLast?_append, last]
    rfl
  have base : trimSymbols (text.symbols.dropWhile Symbol.isBlank) = trimSymbols text.symbols :=
    trimBy_dropWhile
  have nonempty :
      trimSymbols (text.followedBy (gap.chars ++ signOf negative :: d.chars)).symbols ≠ [] := by
    rw [trimmed, begins]
    exact List.cons_ne_nil _ _
  rw [evaluate_some nonempty, evaluate_some h, trimmed,
    Expression.read_divided literal (d.splitSum?_written gap negative shown),
    ← d.value_negated negative]
  dsimp only
  rw [d.read_trimSymbols, base]
  cases d.value false with
  | error failure => rfl
  | ok v =>
    cases Expression.read (trimSymbols text.symbols) with
    | error failure => rfl
    | ok base => exact base.toInstant_sum _ zone now

/-- The instant that is reached from another one by an addend: the clock of the zone is moved, and
keeps its offset where it shows the time it comes to twice. -/
def Addend.land (a : Addend) (zone : Zone) (i : Instant) : Except Failure Instant :=
  zone.land ((zone.dateTime i).plus a.amount a.unit) (zone.offsetAt i)

theorem evaluate_addend {text : Text} (h : trimSymbols text.symbols ≠ []) (a : Addend) (zone : Zone)
    (now : Instant) :
    evaluate (some (text.followedBy a.chars)) zone now
      = (evaluate (some text) zone now).bind (a.land zone) := by
  rw [a.chars_eq, evaluate_sum h, a.value_unsigned]
  rfl

end Almanac
