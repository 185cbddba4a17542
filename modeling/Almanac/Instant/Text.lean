import Almanac.Failure

namespace Almanac

/-- A text that holds a year, which is written unless the year has too many digits. -/
def writtenYear (year : Int) (text : List Char) : Except Failure (List Char) :=
  if TooLong year then .error .longYear else .ok text

namespace Instant

/-- An instant in one of its forms, which hold the year in UTC. -/
def written (form : Instant → List Char) (i : Instant) : Except Failure (List Char) :=
  writtenYear (i.dateTime 0).date.year (form i)

/-- The ISO 8601 text of an instant in UTC. -/
def isoText : Instant → Except Failure (List Char) :=
  written isoForm

/-- The ISO 8601 text without the fraction of the second. -/
def isoSecondsText : Instant → Except Failure (List Char) :=
  written isoSecondsForm

/-- The text without fraction and separators. -/
def compactText : Instant → Except Failure (List Char) :=
  written compactForm

variable {form : Instant → List Char} {i : Instant}

theorem written_of_tooLong (long : TooLong (i.dateTime 0).date.year) :
    i.written form = .error .longYear :=
  if_pos long

theorem written_of_short (short : ¬ TooLong (i.dateTime 0).date.year) :
    i.written form = .ok (form i) :=
  if_neg short

theorem written_eq_ok_iff {text : List Char} :
    i.written form = .ok text ↔ ¬ TooLong (i.dateTime 0).date.year ∧ form i = text := by
  by_cases long : TooLong (i.dateTime 0).date.year
  · simp [written_of_tooLong long, long]
  · simp [written_of_short long, long]

end Instant

end Almanac
