import Almanac.Expression.Duration
import Almanac.Proofs.Digits
import Almanac.Proofs.Trimming

namespace Almanac

/-- White space of any length. -/
structure Blanks where
  chars : List Char
  blank : ∀ c ∈ chars, isBlank c = true

namespace Blanks

def none : Blanks :=
  ⟨[], fun _ h => absurd h List.not_mem_nil⟩

def space : Blanks :=
  ⟨[' '], fun c h => by rw [List.mem_singleton.mp h]; decide⟩

def followedBy (a b : Blanks) : Blanks :=
  ⟨a.chars ++ b.chars, fun c h => (List.mem_append.mp h).elim (a.blank c) (b.blank c)⟩

end Blanks

theorem exists_blanks (text : List Char) :
    ∃ gap : Blanks, text = gap.chars ++ text.dropWhile isBlank :=
  ⟨⟨text.takeWhile isBlank, fun _ h => List.mem_takeWhile_imp h⟩,
    List.takeWhile_append_dropWhile.symm⟩

def signOf (negative : Bool) : Char :=
  if negative then '-' else '+'

/-- The sign that is written for a minus or a plus, or none. -/
def signText (negative? : Option Bool) : List Char :=
  (negative?.map signOf).toList

theorem isSign_signOf (negative : Bool) : isSign (signOf negative) = true := by
  cases negative <;> decide

theorem not_isBlank_signOf (negative : Bool) : isBlank (signOf negative) = false := by
  cases negative <;> decide

theorem not_isSign_of {p : Char → Bool} (plus : p '+' = false) (minus : p '-' = false) {c : Char}
    (h : p c = true) : isSign c = false := by
  have not_plus : c ≠ '+' := by
    rintro rfl
    exact Bool.false_ne_true (plus.symm.trans h)
  have not_minus : c ≠ '-' := by
    rintro rfl
    exact Bool.false_ne_true (minus.symm.trans h)
  simp [isSign, not_plus, not_minus]

theorem not_isSign_of_isBlank {c : Char} (h : isBlank c = true) : isSign c = false :=
  not_isSign_of (by decide) (by decide) h

theorem not_isSign_of_isDigit {c : Char} (h : c.isDigit = true) : isSign c = false :=
  not_isSign_of (by decide) (by decide) h

theorem not_isSign_of_isAlpha {c : Char} (h : c.isAlpha = true) : isSign c = false :=
  not_isSign_of (by decide) (by decide) h

theorem not_isDigit_of_isBlank {c : Char} (h : isBlank c = true) : c.isDigit = false := by
  by_contra digit
  rw [isBlank_of_isDigit (Bool.of_not_eq_false digit)] at h
  cases h

theorem isAlpha_range {c : Char} (h : c.isAlpha = true) : 65 ≤ c.toNat ∧ c.toNat ≤ 122 := by
  rcases Bool.or_eq_true_iff.mp h with upper | lower
  · have range : 'A'.val ≤ c.val ∧ c.val ≤ 'Z'.val := of_decide_eq_true upper
    exact ⟨range.1, Nat.le_trans range.2 (by decide)⟩
  · have range := (Bool.and_eq_true _ _).mp lower
    have first : 97 ≤ c.toNat := of_decide_eq_true range.1
    exact ⟨Nat.le_trans (by decide) first, of_decide_eq_true range.2⟩

theorem not_isDigit_of_isAlpha {c : Char} (h : c.isAlpha = true) : c.isDigit = false := by
  have letter := isAlpha_range h
  by_contra digit
  have range := isDigit_iff.mp (Bool.of_not_eq_false digit)
  omega

theorem isBlank_of_isAlpha {c : Char} (h : c.isAlpha = true) : isBlank c = false := by
  have letter := isAlpha_range h
  simp only [isBlank, Bool.or_eq_false_iff, Bool.and_eq_false_iff, decide_eq_false_iff_not,
    beq_eq_false_iff_ne]
  omega

theorem TimeUnit.ofCode?_eq_some_iff {code : List Char} {unit : TimeUnit} :
    ofCode? code = some unit ↔ unit.code.toList = code := by
  constructor
  · intro found
    have named := List.find?_some found
    exact of_decide_eq_true named
  · rintro rfl
    exact unit.ofCode?_code

theorem TimeUnit.code_ne_nil (u : TimeUnit) : u.code.toList ≠ [] := by
  cases u <;> decide

theorem TimeUnit.isAlpha_of_mem_code (u : TimeUnit) : ∀ c ∈ u.code.toList, c.isAlpha = true :=
  List.all_eq_true.mp (by cases u <;> decide)

/-- The parts of a duration from the text after its sign. -/
def partsAfterSign? (negative : Bool) (text : List Char) : Option DurationParts :=
  let body := text.dropWhile isBlank
  let digits := body.takeWhile Char.isDigit
  let code := (body.dropWhile Char.isDigit).dropWhile isBlank
  if digits ≠ [] ∧ code ≠ [] ∧ code.all Char.isAlpha then some ⟨negative, digits, code⟩ else none

theorem durationParts?_eq (text : List Char) :
    durationParts? text = match trim text with
      | '-' :: rest => partsAfterSign? true rest
      | '+' :: rest => partsAfterSign? false rest
      | body => partsAfterSign? false body := by
  unfold durationParts?
  generalize trim text = body
  split
  next rest => rfl
  next rest => rfl
  next minus plus =>
    dsimp only
    split
    next rest => exact absurd rfl (minus rest)
    next rest => exact absurd rfl (plus rest)
    · rfl

theorem durationParts?_trim (text : List Char) :
    durationParts? (trim text) = durationParts? text := by
  unfold durationParts?
  rw [trim, trimBy_trimBy]

/-- A duration as it is written: a sign that may be missing, digits from 0 to 9, and letters from A
to Z of either case for its unit, with white space before and after each of them. -/
structure WrittenDuration where
  beforeSign : Blanks
  negative? : Option Bool
  beforeDigits : Blanks
  digits : List Char
  beforeCode : Blanks
  code : List Char
  afterCode : Blanks
  isDigit : ∀ c ∈ digits, c.isDigit = true
  digits_ne_nil : digits ≠ []
  isAlpha : ∀ c ∈ code, c.isAlpha = true
  code_ne_nil : code ≠ []

namespace WrittenDuration

variable (w : WrittenDuration)

/-- The digits and the letters. -/
def body : List Char :=
  w.digits ++ (w.beforeCode.chars ++ w.code)

def chars : List Char :=
  w.beforeSign.chars ++ (signText w.negative? ++ (w.beforeDigits.chars ++ w.body))
    ++ w.afterCode.chars

def symbols : List Symbol :=
  w.chars.map .char

def parts : DurationParts :=
  ⟨w.negative?.getD false, w.digits, w.code⟩

theorem exists_first_body : ∃ c rest, w.body = c :: rest ∧ c.isDigit = true := by
  obtain ⟨c, rest, eq⟩ := List.exists_cons_of_ne_nil w.digits_ne_nil
  refine ⟨c, rest ++ (w.beforeCode.chars ++ w.code), ?_, w.isDigit c (by simp [eq])⟩
  rw [body, eq, List.cons_append]

theorem exists_last_body : ∃ c, w.body.getLast? = some c ∧ isBlank c = false := by
  obtain ⟨c, last⟩ := Option.ne_none_iff_exists'.mp (mt List.getLast?_eq_none_iff.mp w.code_ne_nil)
  refine ⟨c, ?_, isBlank_of_isAlpha (w.isAlpha c (List.mem_of_getLast? last))⟩
  rw [body, List.getLast?_append, List.getLast?_append, last]
  rfl

/-- The digits end where the letters or the white space before them begin. -/
theorem not_isDigit_of_mem_head :
    ∀ c ∈ (w.beforeCode.chars ++ w.code).head?, c.isDigit = false := by
  intro c first
  rcases List.mem_append.mp (List.mem_of_mem_head? first) with blank | letter
  · exact not_isDigit_of_isBlank (w.beforeCode.blank c blank)
  · exact not_isDigit_of_isAlpha (w.isAlpha c letter)

theorem dropWhile_isBlank_body : w.body.dropWhile isBlank = w.body := by
  obtain ⟨first, rest, begins, digit⟩ := w.exists_first_body
  rw [begins, List.dropWhile_cons_of_neg (by simp [isBlank_of_isDigit digit])]

theorem dropWhile_isBlank_code : w.code.dropWhile isBlank = w.code := by
  obtain ⟨first, rest, begins⟩ := List.exists_cons_of_ne_nil w.code_ne_nil
  have letter := w.isAlpha first (by simp [begins])
  rw [begins, List.dropWhile_cons_of_neg (by simp [isBlank_of_isAlpha letter])]

theorem partsAfterSign?_body (negative : Bool) (gap : Blanks) :
    partsAfterSign? negative (gap.chars ++ w.body) = some ⟨negative, w.digits, w.code⟩ := by
  have stop := w.not_isDigit_of_mem_head
  have letters : w.code.all Char.isAlpha = true := List.all_eq_true.mpr w.isAlpha
  unfold partsAfterSign?
  dsimp only
  rw [List.dropWhile_append_of_pos gap.blank, w.dropWhile_isBlank_body, body,
    takeWhile_until w.isDigit stop, dropWhile_until w.isDigit stop,
    List.dropWhile_append_of_pos w.beforeCode.blank, w.dropWhile_isBlank_code,
    if_pos ⟨w.digits_ne_nil, w.code_ne_nil, letters⟩]

/-- The parts of a duration are found again in its text. -/
theorem durationParts?_chars : durationParts? w.chars = some w.parts := by
  obtain ⟨first, rest, begins, digit⟩ := w.exists_first_body
  obtain ⟨last, ends, visible⟩ := w.exists_last_body
  have stripped : trim w.chars = trim (signText w.negative? ++ (w.beforeDigits.chars ++ w.body)) := by
    unfold trim chars
    rw [trimBy_append_blank w.afterCode.blank, trimBy_blank_append w.beforeSign.blank]
  rw [durationParts?_eq, stripped, parts]
  cases w.negative? with
  | some negative =>
    have kept : trim (signText (some negative) ++ (w.beforeDigits.chars ++ w.body))
        = signOf negative :: (w.beforeDigits.chars ++ w.body) := by
      refine trimBy_of_ends rfl ?_ (not_isBlank_signOf negative) visible
      rw [List.getLast?_append, List.getLast?_append, ends]
      rfl
    rw [kept]
    cases negative with
    | true => exact w.partsAfterSign?_body true w.beforeDigits
    | false => exact w.partsAfterSign?_body false w.beforeDigits
  | none =>
    have kept : trim (signText none ++ (w.beforeDigits.chars ++ w.body)) = w.body := by
      have bare : signText none ++ (w.beforeDigits.chars ++ w.body)
          = w.beforeDigits.chars ++ w.body := rfl
      rw [bare, trim, trimBy_blank_append w.beforeDigits.blank]
      exact trimBy_of_ends (by rw [begins]; rfl) ends (isBlank_of_isDigit digit) visible
    rw [kept]
    split
    next rest' minus =>
      rw [begins] at minus
      cases minus
      cases digit
    next rest' plus =>
      rw [begins] at plus
      cases plus
      cases digit
    · exact w.partsAfterSign?_body false .none

end WrittenDuration

/-- What is found after a sign that may be missing is written there. -/
theorem exists_of_partsAfterSign? {text body : List Char} {parts : DurationParts} (negative? : Option Bool)
    (whole : trim text = signText negative? ++ body)
    (h : partsAfterSign? (negative?.getD false) body = some parts) :
    ∃ w : WrittenDuration, w.chars = text ∧ w.parts = parts := by
  obtain ⟨lead, trail, eq, blank, blank'⟩ := exists_trimBy isBlank text
  obtain ⟨gap, split⟩ := exists_blanks body
  obtain ⟨gap', split'⟩ := exists_blanks ((body.dropWhile isBlank).dropWhile Char.isDigit)
  have digits := List.takeWhile_append_dropWhile (p := Char.isDigit) (l := body.dropWhile isBlank)
  unfold partsAfterSign? at h
  dsimp only at h
  split at h
  next found =>
    cases h
    obtain ⟨filled, filled', letters⟩ := found
    refine ⟨⟨⟨lead, blank⟩, negative?, gap, _, gap', _, ⟨trail, blank'⟩,
      fun _ mem => List.mem_takeWhile_imp mem, filled, List.all_eq_true.mp letters, filled'⟩, ?_, rfl⟩
    unfold WrittenDuration.chars WrittenDuration.body
    dsimp only
    rw [← split', digits, ← split, ← whole, List.append_assoc]
    exact eq.symm
  · cases h

/-- The parts of a duration are found in a text exactly if they are written there. -/
theorem durationParts?_eq_some_iff {text : List Char} {parts : DurationParts} :
    durationParts? text = some parts ↔ ∃ w : WrittenDuration, w.chars = text ∧ w.parts = parts := by
  constructor
  · intro h
    rw [durationParts?_eq] at h
    split at h
    next rest eq => exact exists_of_partsAfterSign? (some true) eq h
    next rest eq => exact exists_of_partsAfterSign? (some false) eq h
    · exact exists_of_partsAfterSign? none rfl h
  · rintro ⟨w, rfl, rfl⟩
    exact w.durationParts?_chars

end Almanac
