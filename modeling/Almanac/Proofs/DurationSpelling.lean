import Almanac.Proofs.UnsignedDurations

namespace Almanac

/-- The parts of a duration stand in a text with white space around them, after a sign that may be
missing. -/
inductive DurationParts.Spells (parts : DurationParts) : List Char → Prop
  | intro (lead gap gap' trail : Blanks) (sign : List Char)
    (signed : sign = [] ∨ sign = ['+'] ∨ sign = ['-'])
    (digits : parts.digits ≠ []) (isDigit : ∀ c ∈ parts.digits, c.isDigit = true)
    (code : parts.code ≠ []) (isAlpha : ∀ c ∈ parts.code, c.isAlpha = true) :
    Spells parts (lead.chars ++ (sign ++ (gap.chars ++ (parts.digits ++ (gap'.chars ++ parts.code))))
      ++ trail.chars)

variable {text : List Char} {parts : DurationParts}

/-- A duration is read from a text that spells its parts. -/
theorem spells_of_durationParts? (h : durationParts? text = some parts) : parts.Spells text := by
  obtain ⟨w, rfl, rfl⟩ := durationParts?_eq_some_iff.mp h
  have signed : signText w.negative? = [] ∨ signText w.negative? = ['+']
      ∨ signText w.negative? = ['-'] := by
    rcases w.negative? with - | - | -
    · exact .inl rfl
    · exact .inr (.inl rfl)
    · exact .inr (.inr rfl)
  exact .intro w.beforeSign w.beforeDigits w.beforeCode w.afterCode _ signed w.digits_ne_nil w.isDigit
    w.code_ne_nil w.isAlpha

namespace DurationParts.Spells

theorem digits_isInfix (h : parts.Spells text) : parts.digits <:+: text := by
  obtain ⟨lead, gap, gap', trail, sign, -, -, -, -, -⟩ := h
  refine ⟨lead.chars ++ (sign ++ gap.chars), gap'.chars ++ parts.code ++ trail.chars, ?_⟩
  simp

theorem isDigit_of_mem_digits (h : parts.Spells text) :
    ∀ c ∈ parts.digits, c.isDigit = true := by
  obtain ⟨-, -, -, -, -, -, -, isDigit, -, -⟩ := h
  exact isDigit

theorem exists_digit (h : parts.Spells text) : ∃ c ∈ text, c.isDigit = true := by
  have inside := h.digits_isInfix
  obtain ⟨lead, gap, gap', trail, sign, -, digits, isDigit, -, -⟩ := h
  obtain ⟨c, mem⟩ := List.exists_mem_of_ne_nil _ digits
  exact ⟨c, inside.mem mem, isDigit c mem⟩

/-- Before a sign in the text of a duration there is only white space. -/
theorem blank_before (h : parts.Spells text) {before after : List Char} {c : Char}
    (split : text = before ++ c :: after) (sign : isSign c = true) :
    ∀ d ∈ before, isBlank d = true := by
  obtain ⟨lead, gap, gap', trail, sgn, signed, -, isDigit, -, isAlpha⟩ := h
  have unsigned : ∀ d ∈ gap.chars ++ (parts.digits ++ (gap'.chars ++ (parts.code ++ trail.chars))),
      isSign d = false := by
    intro d hd
    simp only [List.mem_append] at hd
    rcases hd with hd | hd | hd | hd | hd
    · exact not_isSign_of_isBlank (gap.blank d hd)
    · exact not_isSign_of_isDigit (isDigit d hd)
    · exact not_isSign_of_isBlank (gap'.blank d hd)
    · exact not_isSign_of_isAlpha (isAlpha d hd)
    · exact not_isSign_of_isBlank (trail.blank d hd)
  simp only [List.append_assoc] at split
  obtain ⟨rest, hrest⟩ : ∃ rest,
      gap.chars ++ (parts.digits ++ (gap'.chars ++ (parts.code ++ trail.chars))) = rest := ⟨_, rfl⟩
  rw [hrest] at unsigned split
  have absent : c ∉ rest := by
    intro mem
    rw [unsigned c mem] at sign
    cases sign
  rcases List.append_eq_append_iff.mp split with ⟨passed, rfl, tail⟩ | ⟨left, eq, -⟩
  · cases passed with
    | nil =>
      rw [List.append_nil]
      exact lead.blank
    | cons p passed =>
      exfalso
      apply absent
      rcases signed with rfl | rfl | rfl
      · have whole : rest = p :: passed ++ c :: after := tail
        simp [whole]
      · have left : rest = passed ++ c :: after := (List.cons.inj tail).2
        simp [left]
      · have left : rest = passed ++ c :: after := (List.cons.inj tail).2
        simp [left]
  · intro d hd
    apply lead.blank d
    rw [eq]
    exact List.mem_append_left _ hd

theorem colon_not_mem (h : parts.Spells text) : ':' ∉ text := by
  obtain ⟨lead, gap, gap', trail, sign, signed, -, isDigit, -, isAlpha⟩ := h
  intro mem
  simp only [List.mem_append] at mem
  rcases mem with (hd | hd | hd | hd | hd | hd) | hd
  · exact absurd (lead.blank _ hd) (by decide)
  · rcases signed with rfl | rfl | rfl <;> exact absurd hd (by decide)
  · exact absurd (gap.blank _ hd) (by decide)
  · exact absurd (isDigit _ hd) (by decide)
  · exact absurd (gap'.blank _ hd) (by decide)
  · exact absurd (isAlpha _ hd) (by decide)
  · exact absurd (trail.blank _ hd) (by decide)

/-- The text of a duration ends with a letter of its unit or with white space. -/
theorem exists_last (h : parts.Spells text) :
    ∃ c, text.getLast? = some c ∧ (c ∈ parts.code ∨ isBlank c = true) := by
  obtain ⟨lead, gap, gap', trail, sign, -, -, -, code, -⟩ := h
  obtain ⟨c, last⟩ := Option.ne_none_iff_exists'.mp (mt List.getLast?_eq_none_iff.mp code)
  cases blanks : trail.chars.getLast? with
  | none =>
    refine ⟨c, ?_, .inl (List.mem_of_getLast? last)⟩
    simp [List.getLast?_append, blanks, last]
  | some d =>
    refine ⟨d, ?_, .inr (trail.blank d (List.mem_of_getLast? blanks))⟩
    simp [List.getLast?_append, blanks]

theorem isAlpha_of_mem_code (h : parts.Spells text) {c : Char} (mem : c ∈ parts.code) :
    c.isAlpha = true := by
  obtain ⟨-, -, -, -, -, -, -, -, -, isAlpha⟩ := h
  exact isAlpha c mem

/-- The text of a duration of a known unit does not end as literals do. -/
theorem endsOpen (h : parts.Spells text) {unit : TimeUnit}
    (known : TimeUnit.ofCode? parts.code = some unit) : EndsOpen text := by
  have code := TimeUnit.ofCode?_eq_some_iff.mp known
  obtain ⟨c, last, letter | blank⟩ := h.exists_last
  · rw [← code] at letter
    exact ⟨c, last, unit.isOpen_of_mem_code c letter⟩
  · exact ⟨c, last, isOpen_of_isBlank blank⟩

end DurationParts.Spells

end Almanac
