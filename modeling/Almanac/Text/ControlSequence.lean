namespace Almanac

/-- A character of the numbers in a control sequence. -/
def isSequenceParameter (c : Char) : Bool :=
  c.isDigit || c == ';' || c == '?'

/-- The text after a control sequence whose escape character has been read: a bracket, numbers and
a letter from A to Z of either case. -/
def afterSequence? : List Char → Option (List Char)
  | '[' :: rest =>
    match rest.dropWhile isSequenceParameter with
    | c :: rest => if c.isAlpha then some rest else none
    | [] => none
  | _ => none

theorem afterSequence?_length {text rest : List Char} (h : afterSequence? text = some rest) :
    rest.length < text.length := by
  unfold afterSequence? at h
  split at h
  next body =>
    have := (List.dropWhile_sublist isSequenceParameter (l := body)).length_le
    split at h
    next c tail eq =>
      rw [eq] at this
      split at h
      · cases Option.some.inj h
        simp only [List.length_cons] at this ⊢
        omega
      · simp at h
    next => simp at h
  next => simp at h

/-- A text without the sequences that set colours or move the cursor of a terminal. -/
def withoutSequences : List Char → List Char
  | [] => []
  | c :: rest =>
    if c = '\x1b' then
      match _h : afterSequence? rest with
      | some after => withoutSequences after
      | none => c :: withoutSequences rest
    else c :: withoutSequences rest
termination_by text => text.length
decreasing_by
  all_goals simp only [List.length_cons]
  · have := afterSequence?_length _h
    omega
  all_goals omega

theorem withoutSequences_eq_self {text : List Char} (h : '\x1b' ∉ text) :
    withoutSequences text = text := by
  induction text with
  | nil => rw [withoutSequences]
  | cons c rest ih =>
    rw [List.mem_cons, not_or] at h
    rw [withoutSequences, if_neg (Ne.symm h.1), ih h.2]

end Almanac
