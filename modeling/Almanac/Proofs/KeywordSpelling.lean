import Almanac.Proofs.Keywords
import Almanac.Proofs.LowerCase

namespace Almanac

/-- All characters of a gap become one space. -/
theorem collapseGaps_eq (text : List Char) :
    collapseGaps text
      = if text.takeWhile isGap = [] then collapseGaps (text.dropWhile isGap)
        else ' ' :: collapseGaps (text.dropWhile isGap) := by
  induction text with
  | nil => simp
  | cons c rest ih =>
    by_cases gap : isGap c = true
    · rw [List.takeWhile_cons_of_pos gap, List.dropWhile_cons_of_pos gap,
        if_neg (List.cons_ne_nil _ _), collapseGaps, if_pos gap]
      cases rest with
      | nil => rfl
      | cons d rest =>
        by_cases more : isGap d = true
        · rw [List.head?_cons, Option.map_some, more, ih, List.takeWhile_cons_of_pos more,
            if_neg (List.cons_ne_nil _ _)]
          rfl
        · simp [more]
    · rw [List.takeWhile_cons_of_neg gap, if_pos rfl, List.dropWhile_cons_of_neg gap]

section

variable {c k : Char} {ks word text : List Char}

theorem collapseGaps_letter (h : isGap c = false) (rest : List Char) :
    collapseGaps (c :: rest) = c :: collapseGaps rest := by
  rw [collapseGaps, if_neg (by simp [h])]

/-- A gap before something else, or at the end, is a space. -/
theorem collapseGaps_gap {gap rest : List Char} (filled : gap ≠ [])
    (gaps : ∀ c ∈ gap, isGap c = true) (stop : ∀ c ∈ rest.head?, isGap c = false) :
    collapseGaps (gap ++ rest) = ' ' :: collapseGaps rest := by
  rw [collapseGaps_eq, takeWhile_until gaps stop, dropWhile_until gaps stop, if_neg filled]

theorem not_isGap_of_lowersTo (letter : isGap k = false) (h : LowersTo k c) : isGap c = false := by
  rw [← Bool.not_eq_true]
  intro gap
  rw [LowersTo, lower_of_isGap gap, List.singleton_inj] at h
  rw [h, letter] at gap
  cases gap

theorem eq_nil_of_collapseGaps (h : collapseGaps text = []) : text = [] := by
  cases text with
  | nil => rfl
  | cons c rest =>
    by_cases gap : isGap c = true
    · rw [collapseGaps_eq, List.takeWhile_cons_of_pos gap, if_neg (List.cons_ne_nil _ _)] at h
      cases h
    · rw [collapseGaps_letter (Bool.eq_false_of_not_eq_true gap)] at h
      cases h

/-- Where the collapsed text begins with a letter, so does the text. -/
theorem exists_letter (letter : isGap k = false)
    (h : List.Forall₂ LowersTo (k :: ks) (collapseGaps text)) :
    ∃ c rest, text = c :: rest ∧ LowersTo k c ∧ List.Forall₂ LowersTo ks (collapseGaps rest) := by
  obtain ⟨c, rest', lowers, others, collapsed⟩ := List.forall₂_cons_left_iff.mp h
  have plain := not_isGap_of_lowersTo letter lowers
  cases text with
  | nil => cases collapsed
  | cons d rest =>
    by_cases gap : isGap d = true
    · rw [collapseGaps_eq, List.takeWhile_cons_of_pos gap, if_neg (List.cons_ne_nil _ _)] at collapsed
      obtain ⟨rfl, -⟩ := List.cons.inj collapsed
      cases plain
    · rw [collapseGaps_letter (Bool.eq_false_of_not_eq_true gap)] at collapsed
      obtain ⟨rfl, rfl⟩ := List.cons.inj collapsed
      exact ⟨d, rest, rfl, lowers, others⟩

/-- Where the collapsed text begins with a word, so does the text. -/
theorem exists_word (letters : ∀ k ∈ word, isGap k = false)
    (h : List.Forall₂ LowersTo (word ++ ks) (collapseGaps text)) :
    ∃ written rest, text = written ++ rest ∧ List.Forall₂ LowersTo word written
      ∧ List.Forall₂ LowersTo ks (collapseGaps rest) := by
  induction word generalizing text with
  | nil => exact ⟨[], text, rfl, .nil, h⟩
  | cons k word ih =>
    obtain ⟨letter, letters⟩ := List.forall_mem_cons.mp letters
    obtain ⟨c, rest, rfl, lowers, left⟩ := exists_letter letter h
    obtain ⟨written, rest, rfl, spelled, others⟩ := ih letters left
    exact ⟨c :: written, rest, rfl, .cons lowers spelled, others⟩

theorem not_isGap_of_spelled (letters : ∀ k ∈ word, isGap k = false)
    (spelled : List.Forall₂ LowersTo word text) : ∀ c ∈ text, isGap c = false := by
  induction spelled with
  | nil => simp
  | cons lowers _ ih =>
    obtain ⟨letter, letters⟩ := List.forall_mem_cons.mp letters
    exact List.forall_mem_cons.mpr ⟨not_isGap_of_lowersTo letter lowers, ih letters⟩

theorem collapseGaps_word (letters : ∀ k ∈ word, isGap k = false)
    (spelled : List.Forall₂ LowersTo word text) (rest : List Char) :
    collapseGaps (text ++ rest) = text ++ collapseGaps rest := by
  induction spelled with
  | nil => rfl
  | cons lowers _ ih =>
    obtain ⟨letter, letters⟩ := List.forall_mem_cons.mp letters
    rw [List.cons_append, collapseGaps_letter (not_isGap_of_lowersTo letter lowers), ih letters,
      List.cons_append]

/-- Where the collapsed text begins with a space, the text begins with a gap. -/
theorem exists_gap (h : List.Forall₂ LowersTo (' ' :: ks) (collapseGaps text)) :
    ∃ gap rest, text = gap ++ rest ∧ gap ≠ [] ∧ (∀ c ∈ gap, isGap c = true)
      ∧ List.Forall₂ LowersTo ks (collapseGaps rest) := by
  obtain ⟨c, rest', lowers, others, collapsed⟩ := List.forall₂_cons_left_iff.mp h
  obtain rfl := eq_space_of_lower lowers
  have parts := List.takeWhile_append_dropWhile (p := isGap) (l := text)
  by_cases none : text.takeWhile isGap = []
  · rw [none, List.nil_append] at parts
    cases text with
    | nil => cases collapsed
    | cons d rest =>
      have plain : isGap d = false := by
        by_contra gap
        rw [List.takeWhile_cons_of_pos (Bool.eq_true_of_not_eq_false gap)] at none
        cases none
      rw [collapseGaps_letter plain] at collapsed
      obtain ⟨rfl, -⟩ := List.cons.inj collapsed
      cases plain
  · rw [collapseGaps_eq, if_neg none] at collapsed
    obtain ⟨-, rfl⟩ := List.cons.inj collapsed
    exact ⟨_, _, parts.symm, none, fun c mem => List.mem_takeWhile_imp mem, others⟩

end

/-- A word of letters, none of which is a gap. -/
def IsWord (word : List Char) : Prop :=
  word ≠ [] ∧ ∀ k ∈ word, isGap k = false

/-- Words one after the other, each letter in either case and a gap between every two of them. -/
inductive SpellsWords : List (List Char) → List Char → Prop
  | last {word text : List Char} (spelled : List.Forall₂ LowersTo word text) :
    SpellsWords [word] text
  | next {word text gap rest : List Char} {words : List (List Char)}
    (spelled : List.Forall₂ LowersTo word text) (apart : gap ≠ [])
    (gaps : ∀ c ∈ gap, isGap c = true) (others : SpellsWords words rest) :
    SpellsWords (word :: words) (text ++ (gap ++ rest))

namespace SpellsWords

variable {words : List (List Char)} {text : List Char}

theorem words_ne_nil (h : SpellsWords words text) : words ≠ [] := by
  cases h <;> exact List.cons_ne_nil _ _

theorem exists_first (isWord : ∀ word ∈ words, IsWord word) (h : SpellsWords words text) :
    ∃ c, text.head? = some c ∧ isGap c = false := by
  have first {word written : List Char} (isWord : IsWord word)
      (spelled : List.Forall₂ LowersTo word written) (rest : List Char) :
      ∃ c, (written ++ rest).head? = some c ∧ isGap c = false := by
    have letters := not_isGap_of_spelled isWord.2 spelled
    cases spelled with
    | nil => exact absurd rfl isWord.1
    | cons _ _ => exact ⟨_, rfl, letters _ List.mem_cons_self⟩
  cases h with
  | last spelled => simpa using first (isWord _ List.mem_cons_self) spelled []
  | next spelled _ _ _ => exact first (isWord _ List.mem_cons_self) spelled _

theorem exists_last (isWord : ∀ word ∈ words, IsWord word) (h : SpellsWords words text) :
    ∃ c, text.getLast? = some c ∧ isGap c = false := by
  induction h with
  | @last word text spelled =>
    obtain ⟨filled, letters⟩ := isWord word List.mem_cons_self
    cases last : text.getLast? with
    | none =>
      rw [List.getLast?_eq_none_iff.mp last, List.forall₂_nil_right_iff] at spelled
      exact absurd spelled filled
    | some c =>
      exact ⟨c, rfl, not_isGap_of_spelled letters spelled c (List.mem_of_getLast? last)⟩
  | next spelled apart gaps others ih =>
    obtain ⟨c, last, visible⟩ := ih fun word mem => isWord word (List.mem_cons_of_mem _ mem)
    refine ⟨c, ?_, visible⟩
    rw [List.getLast?_append, List.getLast?_append, last]
    rfl

/-- Where the collapsed text has a space between words, the text has a gap. -/
theorem of_collapseGaps (isWord : ∀ word ∈ words, IsWord word) (filled : words ≠ [])
    (h : List.Forall₂ LowersTo ([' '].intercalate words) (collapseGaps text)) :
    SpellsWords words text := by
  induction words generalizing text with
  | nil => exact absurd rfl filled
  | cons word words ih =>
    obtain ⟨⟨-, letters⟩, others⟩ := List.forall_mem_cons.mp isWord
    by_cases alone : words = []
    · rw [alone, List.intercalate_singleton, ← List.append_nil word] at h
      obtain ⟨written, rest, rfl, spelled, left⟩ := exists_word letters h
      obtain rfl := eq_nil_of_collapseGaps (List.forall₂_nil_left_iff.mp left)
      rw [alone, List.append_nil]
      exact .last spelled
    · rw [List.intercalate_cons_of_ne_nil alone, List.append_assoc] at h
      obtain ⟨written, rest, rfl, spelled, left⟩ := exists_word letters h
      obtain ⟨gap, rest, rfl, apart, gaps, left⟩ := exists_gap left
      exact .next spelled apart gaps (ih others alone left)

/-- Collapsed, each gap between words is one space. -/
theorem collapsed (isWord : ∀ word ∈ words, IsWord word) (h : SpellsWords words text) :
    List.Forall₂ LowersTo ([' '].intercalate words) (collapseGaps text) := by
  induction h with
  | @last word text spelled =>
    have letters := (isWord word List.mem_cons_self).2
    have whole := collapseGaps_word letters spelled []
    rw [collapseGaps, List.append_nil] at whole
    rwa [List.intercalate_singleton, whole]
  | @next word text gap rest words spelled apart gaps others ih =>
    obtain ⟨⟨-, letters⟩, isWord⟩ := List.forall_mem_cons.mp isWord
    obtain ⟨c, first, visible⟩ := others.exists_first isWord
    have stop : ∀ d ∈ rest.head?, isGap d = false := by
      rw [first]
      simpa using visible
    rw [List.intercalate_cons_of_ne_nil others.words_ne_nil, List.append_assoc,
      collapseGaps_word letters spelled, collapseGaps_gap apart gaps stop]
    have space : LowersTo ' ' ' ' := lower_of_isGap rfl
    exact List.rel_append spelled (.cons space (ih isWord))

theorem collapseGaps_iff (isWord : ∀ word ∈ words, IsWord word) (filled : words ≠ []) :
    List.Forall₂ LowersTo ([' '].intercalate words) (collapseGaps text)
      ↔ SpellsWords words text :=
  ⟨of_collapseGaps isWord filled, fun h => h.collapsed isWord⟩

/-- Nothing is trimmed from words, nor from the blanks around them anything but the blanks. -/
theorem trim_eq_iff (isWord : ∀ word ∈ words, IsWord word) :
    SpellsWords words (trim text) ↔ ∃ lead body trail, text = lead ++ (body ++ trail)
      ∧ (∀ c ∈ lead, isBlank c = true) ∧ (∀ c ∈ trail, isBlank c = true)
      ∧ SpellsWords words body := by
  constructor
  · intro h
    obtain ⟨lead, trail, around, before, after⟩ := exists_trimBy isBlank text
    exact ⟨lead, _, trail, around, before, after, h⟩
  · rintro ⟨lead, body, trail, rfl, before, after, h⟩
    obtain ⟨first, begins, visible⟩ := h.exists_first isWord
    obtain ⟨last, ends, visible'⟩ := h.exists_last isWord
    have kept : trimBy isBlank body = body :=
      trimBy_of_ends begins ends (not_isBlank_of_not_isGap visible)
        (not_isBlank_of_not_isGap visible')
    rwa [trim, trimBy_blank_append before, trimBy_append_blank after, kept]

end SpellsWords

namespace Anchor

/-- The words of which the keyword of an anchor is made. -/
def words (a : Anchor) : List (List Char) :=
  a.keyword.toList.splitOn ' '

/-- A text spells an anchor if it consists of the words of its keyword in any mix of cases, with
gaps between them and white space around them. -/
def SpelledBy (a : Anchor) (text : List Char) : Prop :=
  ∃ lead body trail, text = lead ++ (body ++ trail) ∧ (∀ c ∈ lead, isBlank c = true)
    ∧ (∀ c ∈ trail, isBlank c = true) ∧ SpellsWords a.words body

variable (a : Anchor)

theorem isWord_of_mem_words : ∀ word ∈ a.words, IsWord word := by
  have all : a.words.all (fun word => !word.isEmpty && word.all (!isGap ·)) = true := by
    cases a <;> decide +kernel
  simpa [IsWord] using all

theorem isAscii_of_mem_keyword : ∀ k ∈ a.keyword.toList, k.toNat < 0x80 := by
  have all : a.keyword.toList.all (·.toNat < 0x80) = true := by
    cases a <;> decide
  simpa using all

theorem keywordForm_eq_iff (text : List Char) :
    keywordForm text = a.keyword.toList ↔ a.SpelledBy text := by
  have whole : [' '].intercalate a.words = a.keyword.toList := List.intercalate_splitOn ' '
  have filled : a.words ≠ [] := List.splitOn_ne_nil ' ' _
  rw [keywordForm, lower_eq_iff a.isAscii_of_mem_keyword, ← whole,
    SpellsWords.collapseGaps_iff a.isWord_of_mem_words filled,
    SpellsWords.trim_eq_iff a.isWord_of_mem_words]
  rfl

/-- An anchor is found for a text exactly if the text spells its keyword, and none is found for any
other text. -/
theorem find?_spelled (text : List Char) :
    (∀ a, find? text = some a ↔ a.SpelledBy text)
      ∧ (find? text = none ↔ ∀ a : Anchor, ¬ a.SpelledBy text) := by
  have found (a : Anchor) : find? text = some a ↔ a.SpelledBy text :=
    find?_eq_some_iff.trans (a.keywordForm_eq_iff text)
  refine ⟨found, ?_⟩
  rw [Option.eq_none_iff_forall_ne_some]
  exact forall_congr' fun a => not_congr (found a)

/-- The kelvin sign has a k as its lower case, and an underscore is no white space. -/
example : find? " Beginning_\u2003wee\u212A".toList = some beginningWeek
    ∧ find? "beginning week_".toList = none := by
  decide +kernel

end Anchor

end Almanac
