import Almanac.Proofs.Digits
import Almanac.Proofs.JsonStrings
import Almanac.Proofs.WholeTexts
import Mathlib.Data.List.TakeWhile

namespace Almanac

theorem skipSpace_of_not_space {c : Char} (h : isJsonSpace c = false) (rest : List Char) :
    skipSpace (c :: rest) = c :: rest :=
  List.dropWhile_cons_of_neg (by simp [h])

/-- White space only, as it stands before a member of an object. -/
def JsonSpaces (gap : List Char) : Prop :=
  ∀ c ∈ gap, isJsonSpace c = true

instance (gap : List Char) : Decidable (JsonSpaces gap) :=
  List.decidableBAll _ gap

theorem JsonSpaces.skipSpace_append {gap : List Char} (h : JsonSpaces gap) (text : List Char) :
    skipSpace (gap ++ text) = skipSpace text :=
  List.dropWhile_append_of_pos h

theorem Json.jsonSpaces_newLine (depth : Nat) : JsonSpaces (Json.newLine depth) := by
  intro c mem
  rcases List.mem_cons.mp mem with rfl | blank
  · decide
  · rw [List.eq_of_mem_replicate blank]
    decide

/-- A character that no number goes on with. -/
def isNumberEnd (c : Char) : Bool :=
  !c.isDigit && c != '.' && c != 'e' && c != 'E'

/-- A text that no number goes on with. -/
def EndsNumber (text : List Char) : Prop :=
  ∀ c ∈ text.head?, isNumberEnd c = true

theorem endsNumber_nil : EndsNumber [] :=
  nofun

theorem endsNumber_cons {c : Char} (h : isNumberEnd c = true) (rest : List Char) :
    EndsNumber (c :: rest) := by
  intro d first
  cases first
  exact h

theorem JsonSpaces.endsNumber {gap : List Char} (h : JsonSpaces gap) {rest : List Char}
    (ends : EndsNumber rest) : EndsNumber (gap ++ rest) := by
  cases gap with
  | nil => exact ends
  | cons c gap =>
    have space := h c List.mem_cons_self
    refine endsNumber_cons ?_ (gap ++ rest)
    simp only [isJsonSpace, Bool.or_eq_true, beq_iff_eq] at space
    rcases space with ((rfl | rfl) | rfl) | rfl <;> rfl

theorem length_le_flatMap_unitText (units : List UInt16) :
    units.length ≤ (units.flatMap unitText).length := by
  have written (u : UInt16) : 1 ≤ (unitText u).length := by
    unfold unitText
    dsimp only
    repeat' split
    all_goals simp
  induction units with
  | nil => exact Nat.zero_le _
  | cons u units ih =>
    have := written u
    rw [List.flatMap_cons, List.length_append, List.length_cons]
    omega

/-- A string is read back from its text after the opening quotation mark. -/
theorem stringTail?_text (t : Text) (rest : List Char) :
    stringTail? (t.units.flatMap unitText ++ '\x22' :: rest).length
        (t.units.flatMap unitText ++ '\x22' :: rest) = some (t.units, rest) := by
  apply stringTail?_flatMap_unitText
  have := length_le_flatMap_unitText t.units
  rw [List.length_append, List.length_cons]
  omega

theorem jsonString_append (t : Text) (rest : List Char) :
    jsonString t ++ rest = '\x22' :: (t.units.flatMap unitText ++ '\x22' :: rest) := by
  simp [jsonString]

namespace Json

variable {text : List Char} {v : Json} {parts : Nat}

/-- A text is read as a value before any rest that no number goes on with, if at least `parts` parts
may be read. -/
def Spells (text : List Char) (v : Json) (parts : Nat) : Prop :=
  ∀ bound rest, EndsNumber rest → parts ≤ bound →
    valueHead bound (skipSpace (text ++ rest)) = .ok (v, rest)

/-- A text that spells a value in no more parts than it may be read in is read as that value. -/
theorem Spells.read (h : Spells text v parts) (room : parts ≤ 2 * text.length + 1) :
    Json.read text = .ok v := by
  have whole := h _ [] endsNumber_nil room
  rw [List.append_nil] at whole
  unfold Json.read
  rw [whole]
  rfl

theorem spells_null : Spells "null".toList null 1 := by
  intro bound rest ends room
  obtain ⟨less, rfl⟩ := Nat.exists_eq_succ_of_ne_zero (Nat.ne_of_gt room)
  rfl

/-- A text is read as the code units it is written in, and so as it is if it is whole. -/
theorem spells_string {t : Text} (whole : t.Whole) : Spells (jsonString t) (string t) 1 := by
  intro bound rest ends room
  obtain ⟨less, rfl⟩ := Nat.exists_eq_succ_of_ne_zero (Nat.ne_of_gt room)
  have same : Text.ofUnits t.units = t := Text.joined_eq_self_iff.mpr whole
  rw [jsonString_append, skipSpace_of_not_space (by decide), valueHead]
  rw [stringTail?_text]
  dsimp only
  rw [same]

/-- A text is read as the members of an object that follow each other. White space may stand before
each. -/
inductive SpellsMembers (parts : Nat) : List Char → List (String × Json) → Prop
  | last {gap text : List Char} {value : Json} (space : JsonSpaces gap) (name : String)
      (spells : Spells text value parts) :
    SpellsMembers parts (gap ++ jsonString name ++ ':' :: ' ' :: text) [(name, value)]
  | more {gap text tail : List Char} {value : Json} {others : List (String × Json)}
      (space : JsonSpaces gap) (name : String) (spells : Spells text value parts)
      (rest : SpellsMembers parts tail others) :
    SpellsMembers parts (gap ++ jsonString name ++ ':' :: ' ' :: text ++ ',' :: tail)
      ((name, value) :: others)

theorem skipSpace_member {gap : List Char} (space : JsonSpaces gap) (name : String)
    (rest : List Char) :
    skipSpace (gap ++ jsonString name ++ rest)
      = '\x22' :: ((Text.ofString name).units.flatMap unitText ++ '\x22' :: rest) := by
  rw [List.append_assoc, space.skipSpace_append, jsonString_append,
    skipSpace_of_not_space (by decide)]

/-- A member is read from its text. A brace after it closes the object, and a comma goes on with the
others. -/
theorem membersTail_member {gap : List Char} (space : JsonSpaces gap) (name : String)
    (spells : Spells text v parts) {bound : Nat} (room : parts ≤ bound) {after : List Char}
    (ends : EndsNumber after) :
    (∀ rest, skipSpace after = '}' :: rest →
        membersTail (bound + 1) (skipSpace (gap ++ jsonString name ++ ':' :: ' ' :: text ++ after))
          = .ok ([(name, v)], rest))
      ∧ ∀ tail members rest, skipSpace after = ',' :: tail →
        membersTail bound (skipSpace tail) = .ok (members, rest) →
        membersTail (bound + 1) (skipSpace (gap ++ jsonString name ++ ':' :: ' ' :: text ++ after))
          = .ok ((name, v) :: members, rest) := by
  have value : valueHead bound (skipSpace (' ' :: (text ++ after))) = .ok (v, after) :=
    spells bound after ends room
  have whole : Text.ofUnits (Text.ofString name).units = Text.ofString name :=
    Text.joined_eq_self_iff.mpr (Text.whole_ofChars _)
  have colon : skipSpace (':' :: ' ' :: (text ++ after)) = ':' :: ' ' :: (text ++ after) :=
    skipSpace_of_not_space (by decide) _
  rw [List.append_assoc, skipSpace_member space, List.cons_append, List.cons_append]
  constructor
  · intro rest brace
    rw [membersTail, stringTail?_text]
    simp only [colon, value, brace, whole, Text.string_ofString]
  · intro tail members rest comma others
    rw [membersTail, stringTail?_text]
    simp only [colon, value, comma, others, whole, Text.string_ofString]

namespace SpellsMembers

variable {members : List (String × Json)}

theorem exists_quote (h : SpellsMembers parts text members) (rest : List Char) :
    ∃ tail, skipSpace (text ++ rest) = '\x22' :: tail := by
  cases h with
  | last space name =>
    rw [List.append_assoc]
    exact ⟨_, skipSpace_member space name _⟩
  | more space name =>
    rw [List.append_assoc, List.append_assoc]
    exact ⟨_, skipSpace_member space name _⟩

/-- The members of an object are read up to the brace that closes it. -/
theorem membersTail_eq (h : SpellsMembers parts text members) {bound : Nat}
    (room : parts + members.length ≤ bound) {gap : List Char} (space : JsonSpaces gap)
    (rest : List Char) :
    membersTail bound (skipSpace (text ++ (gap ++ '}' :: rest))) = .ok (members, rest) := by
  induction h generalizing bound with
  | last before name spells =>
    obtain ⟨less, rfl⟩ := Nat.exists_eq_succ_of_ne_zero (show bound ≠ 0 by
      rw [List.length_singleton] at room
      omega)
    have ends := space.endsNumber (endsNumber_cons (show isNumberEnd '}' = true from rfl) rest)
    have brace : skipSpace (gap ++ '}' :: rest) = '}' :: rest := by
      rw [space.skipSpace_append, skipSpace_of_not_space (by decide)]
    exact (membersTail_member before name spells (Nat.le_of_succ_le_succ room) ends).1 rest brace
  | @more _ _ tail _ others before name spells _ ih =>
    rw [List.length_cons] at room
    obtain ⟨less, rfl⟩ := Nat.exists_eq_succ_of_ne_zero (show bound ≠ 0 by omega)
    have ends : EndsNumber (',' :: (tail ++ (gap ++ '}' :: rest))) := endsNumber_cons rfl _
    have comma := skipSpace_of_not_space (show isJsonSpace ',' = false from rfl)
      (tail ++ (gap ++ '}' :: rest))
    rw [List.append_assoc, List.cons_append]
    exact (membersTail_member before name spells (by omega) ends).2 _ others rest comma
      (ih (by omega))

theorem spells_object (h : SpellsMembers parts text members) {gap : List Char}
    (space : JsonSpaces gap) :
    Spells ('{' :: text ++ gap ++ ['}']) (object members) (parts + members.length + 1) := by
  intro bound rest ends room
  obtain ⟨less, rfl⟩ := Nat.exists_eq_succ_of_ne_zero (show bound ≠ 0 by omega)
  have whole : '{' :: text ++ gap ++ ['}'] ++ rest = '{' :: (text ++ (gap ++ '}' :: rest)) := by
    simp
  have inner := h.membersTail_eq (show parts + members.length ≤ less by omega) space rest
  obtain ⟨tail, quote⟩ := h.exists_quote (gap ++ '}' :: rest)
  rw [quote] at inner
  rw [whole, skipSpace_of_not_space (by decide), valueHead, quote]
  split
  next empty =>
    obtain ⟨brace, -⟩ := List.cons.inj empty
    exact absurd brace (by decide)
  next => rw [inner]

end SpellsMembers

/-- A value is read from its text on lines of its own. -/
def ReadsBack (v : Json) (parts : Nat) : Prop :=
  ∀ depth, Spells (v.indented depth) v parts

theorem readsBack_null : null.ReadsBack 1 :=
  fun _ => spells_null

theorem readsBack_string {t : Text} (whole : t.Whole) : (string t).ReadsBack 1 :=
  fun _ => spells_string whole

theorem spellsMembers_membersIndented {members : List (String × Json)} (nonempty : members ≠ [])
    (each : ∀ member ∈ members, member.2.ReadsBack parts) (depth : Nat) :
    SpellsMembers parts (membersIndented depth members) members := by
  induction members with
  | nil => contradiction
  | cons member others ih =>
    obtain ⟨name, value⟩ := member
    have space := jsonSpaces_newLine depth
    have first := each _ List.mem_cons_self depth
    cases others with
    | nil => exact .last space name first
    | cons next others =>
      have rest := ih (List.cons_ne_nil _ _) fun member mem => each member (List.mem_cons_of_mem _ mem)
      exact .more space name first rest

theorem readsBack_object {members : List (String × Json)} (nonempty : members ≠ [])
    (each : ∀ member ∈ members, member.2.ReadsBack parts) :
    (object members).ReadsBack (parts + members.length + 1) := by
  intro depth
  obtain ⟨member, others, rfl⟩ := List.exists_cons_of_ne_nil nonempty
  have inner := spellsMembers_membersIndented nonempty each (depth + 1)
  exact inner.spells_object (jsonSpaces_newLine depth)

/-- A value whose text is not shorter than the parts it is read in is read back from it. -/
theorem ReadsBack.read_indented (h : v.ReadsBack parts)
    (room : parts ≤ 2 * (v.indented 0).length + 1) : Json.read (v.indented 0) = .ok v :=
  (h 0).read room

/-- Members that are written on one line, perhaps after white space. -/
theorem spellsMembers_membersLine {members : List (String × Json)} (nonempty : members ≠ [])
    (each : ∀ member ∈ members, Spells member.2.line member.2 parts) {gap : List Char}
    (space : JsonSpaces gap) : SpellsMembers parts (gap ++ membersLine members) members := by
  induction members generalizing gap with
  | nil => contradiction
  | cons member others ih =>
    obtain ⟨name, value⟩ := member
    have first := each _ List.mem_cons_self
    cases others with
    | nil =>
      have text : gap ++ membersLine [(name, value)]
          = gap ++ jsonString name ++ ':' :: ' ' :: value.line := by
        simp [membersLine]
      rw [text]
      exact .last space name first
    | cons next others =>
      have rest := ih (List.cons_ne_nil _ _)
        (fun member mem => each member (List.mem_cons_of_mem _ mem)) (show JsonSpaces [' '] by decide)
      have text : gap ++ membersLine ((name, value) :: next :: others)
          = gap ++ jsonString name ++ ':' :: ' ' :: value.line
            ++ ',' :: ([' '] ++ membersLine (next :: others)) := by
        simp [membersLine]
      rw [text]
      exact .more space name first rest

theorem spells_object_line {members : List (String × Json)} (nonempty : members ≠ [])
    (each : ∀ member ∈ members, Spells member.2.line member.2 parts) :
    Spells (object members).line (object members) (parts + members.length + 1) := by
  have none : JsonSpaces [] := nofun
  have whole := (spellsMembers_membersLine nonempty each none).spells_object none
  rw [List.nil_append, List.append_nil] at whole
  unfold line
  exact whole

theorem valueHead_plain {c : Char} (string : c ≠ '\x22') (array : c ≠ '[') (object : c ≠ '{')
    (bound : Nat) (rest : List Char) : valueHead (bound + 1) (c :: rest) = plainHead (c :: rest) := by
  unfold valueHead
  split
  next same => exact absurd (List.cons.inj same).1 string
  next same => exact absurd (List.cons.inj same).1 array
  next same => exact absurd (List.cons.inj same).1 object
  next => rfl

/-- No other value than a number begins with a digit. -/
theorem valueHead_of_isDigit {d : Char} (digit : d.isDigit = true) (bound : Nat) (rest : List Char) :
    valueHead (bound + 1) (d :: rest) = numberHead false (d :: rest) := by
  have other {c : Char} (h : c.isDigit = false) : d ≠ c := by
    rintro rfl
    rw [digit] at h
    cases h
  have word {c : Char} (h : c.isDigit = false) (tail : List Char) :
      (c :: tail).isPrefixOf (d :: rest) = false := by
    simp [List.isPrefixOf, (other h).symm]
  have noWord : jsonWords.find? (fun word => word.1.toList.isPrefixOf (d :: rest)) = none := by
    rw [List.find?_eq_none]
    simp only [jsonWords, List.mem_cons, List.not_mem_nil, or_false]
    rintro _ (rfl | rfl | rfl | rfl | rfl | rfl)
    all_goals exact Bool.eq_false_iff.mp (word rfl _)
  rw [valueHead_plain (other rfl) (other rfl) (other rfl)]
  unfold plainHead
  rw [noWord]
  dsimp only
  split
  next same => exact absurd (List.cons.inj same).1 (other rfl)
  next => rfl

/-- No word begins with a minus sign and a digit. -/
theorem valueHead_minus {d : Char} (digit : d.isDigit = true) (bound : Nat) (rest : List Char) :
    valueHead (bound + 1) ('-' :: d :: rest) = numberHead true (d :: rest) := by
  have other : 'I' ≠ d := by
    rintro rfl
    cases digit
  have noWord : jsonWords.find? (fun word => word.1.toList.isPrefixOf ('-' :: d :: rest)) = none := by
    rw [List.find?_eq_none]
    simp only [jsonWords, List.mem_cons, List.not_mem_nil, or_false]
    rintro _ (rfl | rfl | rfl | rfl | rfl | rfl)
    all_goals simp [List.isPrefixOf, other]
  rw [valueHead_plain (by decide) (by decide) (by decide), plainHead, noWord]

/-- The digits of a number are read before a text that no number goes on with, unless they are too
many. -/
theorem numberHead_digits {digits rest : List Char} (decimal : ∀ c ∈ digits, c.isDigit = true)
    (filled : digits ≠ []) (plain : digits.head? = some '0' → digits = ['0'])
    (ends : EndsNumber rest) (negative : Bool) :
    numberHead negative (digits ++ rest)
      = if digitLimit < digits.length then .error (.longNumeral digits.length)
        else .ok (.integer (if negative then -(digitsValue digits : Int) else digitsValue digits),
          rest) := by
  have run : (digits ++ rest).takeWhile Char.isDigit = digits := by
    refine takeWhile_until decimal fun c first => ?_
    have stop := ends c first
    simp only [isNumberEnd, Bool.and_eq_true, Bool.not_eq_true'] at stop
    exact stop.1.1.1
  have fraction : fractionHead rest = ([], rest) := by
    unfold fractionHead
    split
    next tail => exact absurd (ends '.' rfl) (by decide)
    next => rfl
  have exponent : exponentHead rest = ([], rest) := by
    unfold exponentHead
    split
    next e tail =>
      have stop := ends e rfl
      rw [if_neg]
      rintro (rfl | rfl)
      · exact absurd stop (by decide)
      · exact absurd stop (by decide)
    next => rfl
  have one {tail : List Char} (zero : digits ++ rest = '0' :: tail) : digits = ['0'] := by
    apply plain
    obtain ⟨d, others, rfl⟩ := List.exists_cons_of_ne_nil filled
    exact congrArg some (List.cons.inj zero).1
  unfold numberHead
  split
  -- A number that begins with zero has no other digit, so its digits are all read either way.
  case' h_1 tail zero => rw [← one zero]
  case' h_2 => rw [run]
  all_goals
    rw [if_neg filled, List.drop_left, fraction]
    dsimp only
    rw [exponent]
    exact if_pos ⟨rfl, rfl⟩

theorem isJsonSpace_of_isDigit {d : Char} (digit : d.isDigit = true) : isJsonSpace d = false := by
  simp only [isJsonSpace, Bool.or_eq_false_iff, beq_eq_false_iff_ne]
  refine ⟨⟨⟨?_, ?_⟩, ?_⟩, ?_⟩ <;> rintro rfl <;> cases digit

theorem numberHead_toDigits {n : Nat} (short : (Nat.toDigits 10 n).length ≤ digitLimit)
    {rest : List Char} (ends : EndsNumber rest) (negative : Bool) :
    numberHead negative (Nat.toDigits 10 n ++ rest)
      = .ok (.integer (if negative then -(n : Int) else n), rest) := by
  have number := numberHead_digits (fun _ => isDigit_of_mem_toDigits)
    (List.ne_nil_of_length_pos Nat.length_toDigits_pos) (@toDigits_of_head_zero n) ends negative
  rwa [if_neg (Nat.not_lt.mpr short), digitsValue_toDigits] at number

theorem spells_integer {n : Int} (short : (Nat.toDigits 10 n.natAbs).length ≤ digitLimit) :
    Spells (decimal n) (integer n) 1 := by
  intro bound rest ends room
  obtain ⟨less, rfl⟩ := Nat.exists_eq_succ_of_ne_zero (Nat.ne_of_gt room)
  obtain ⟨d, tail, digits⟩ := List.exists_cons_of_length_pos (@Nat.length_toDigits_pos 10 n.natAbs)
  have digit : d.isDigit = true := isDigit_of_mem_toDigits (by rw [digits]; exact List.mem_cons_self)
  unfold decimal
  split
  next negative =>
    have number := numberHead_toDigits short ends true
    have size : -(n.natAbs : Int) = n := by omega
    rw [digits, List.cons_append] at number
    rw [digits, List.cons_append, List.cons_append, skipSpace_of_not_space (by decide),
      valueHead_minus digit, number, if_pos rfl, size]
  next positive =>
    have number := numberHead_toDigits short ends false
    have size : (n.natAbs : Int) = n := by omega
    rw [digits, List.cons_append] at number
    rw [digits, List.cons_append, skipSpace_of_not_space (isJsonSpace_of_isDigit digit),
      valueHead_of_isDigit digit, number, if_neg (by decide), size]

theorem read_of_long {digits : List Char} (decimal : ∀ c ∈ digits, c.isDigit = true)
    (plain : digits.head? ≠ some '0') (long : digitLimit < digits.length) :
    Json.read digits = .error (.longNumeral digits.length) := by
  have filled : digits ≠ [] := List.ne_nil_of_length_pos (Nat.zero_lt_of_lt long)
  have number := numberHead_digits decimal filled (fun zero => absurd zero plain) endsNumber_nil false
  rw [List.append_nil, if_pos long] at number
  obtain ⟨d, rest, rfl⟩ := List.exists_cons_of_ne_nil filled
  have digit := decimal d List.mem_cons_self
  unfold Json.read
  rw [skipSpace_of_not_space (isJsonSpace_of_isDigit digit), valueHead_of_isDigit digit, number]

end Json

end Almanac
