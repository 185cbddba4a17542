import Almanac.Proofs.Forms
import Almanac.Proofs.WholeTexts
import Almanac.Proofs.ZoneIds

namespace Almanac

/-- A text without the character as which surrogates are read. -/
def SurrogateFree (text : List Char) : Prop :=
  Char.ofNat 0xE000 ∉ text

instance (text : List Char) : Decidable (SurrogateFree text) :=
  inferInstanceAs (Decidable (¬ _))

/-- A text in which no two characters on end are read from surrogates. -/
def Scattered (text : List Char) : Prop :=
  text.IsChain fun a b => a ≠ Char.ofNat 0xE000 ∨ b ≠ Char.ofNat 0xE000

/-- Only a pair of surrogates on end could be read as something else. -/
theorem Text.whole_of_scattered {t : Text} (h : Scattered t.chars) : t.Whole := by
  refine ((List.isChain_map Symbol.reading).mp h).imp fun a b apart => ?_
  cases a with
  | char c => rfl
  | surrogate s =>
    cases b with
    | char c => exact Bool.and_false _
    | surrogate s' => exact absurd apart (by simp [Symbol.reading])

namespace SurrogateFree

variable {text rest : List Char}

theorem append (h : SurrogateFree text) (h' : SurrogateFree rest) : SurrogateFree (text ++ rest) := by
  rw [SurrogateFree, List.mem_append]
  exact not_or.mpr ⟨h, h'⟩

theorem cons {c : Char} (h : c ≠ Char.ofNat 0xE000) (h' : SurrogateFree rest) :
    SurrogateFree (c :: rest) := by
  rw [SurrogateFree, List.mem_cons]
  exact not_or.mpr ⟨h.symm, h'⟩

theorem of_all {p : Char → Bool} (other : p (Char.ofNat 0xE000) = false)
    (all : ∀ c ∈ text, p c = true) : SurrogateFree text := by
  intro mem
  rw [all _ mem] at other
  cases other

theorem of_trim (h : SurrogateFree (trim text)) : SurrogateFree text :=
  fun mem => h (mem_trimBy mem (by decide))

theorem blanks (gap : Blanks) : SurrogateFree gap.chars :=
  .of_all (by decide) gap.blank

theorem scattered (h : SurrogateFree text) : Scattered text :=
  (List.pairwise_of_forall_mem_list fun _ ha _ _ => .inl fun same => h (same ▸ ha)).isChain

theorem append_scattered (h : SurrogateFree text) (h' : Scattered rest) : Scattered (text ++ rest) :=
  h.scattered.append h' fun _ ha _ _ => .inl fun same => h (same ▸ List.mem_of_getLast? ha)

end SurrogateFree

namespace Scattered

variable {text rest : List Char}

theorem append_free (h : Scattered text) (h' : SurrogateFree rest) : Scattered (text ++ rest) :=
  h.append h'.scattered fun _ _ _ hb => .inr fun same => h' (same ▸ List.mem_of_head? hb)

theorem of_trim (h : Scattered (trim text)) : Scattered text := by
  obtain ⟨lead, trail, eq, before, after⟩ := exists_trimBy isBlank text
  rw [eq]
  exact (SurrogateFree.of_all (by decide) before).append_scattered
    (h.append_free (.of_all (by decide) after))

end Scattered

/-- A text goes on with another one after characters that are not read from surrogates. -/
def FreeUpTo (text rest : List Char) : Prop :=
  ∃ head, head ++ rest = text ∧ SurrogateFree head

namespace FreeUpTo

variable {text rest left : List Char}

theorem trans (h : FreeUpTo text rest) (h' : FreeUpTo rest left) : FreeUpTo text left := by
  obtain ⟨head, rfl, free⟩ := h
  obtain ⟨head', rfl, free'⟩ := h'
  exact ⟨head ++ head', List.append_assoc _ _ _, free.append free'⟩

theorem mark {c : Char} (h : FreeUpTo text (c :: rest)) (other : c ≠ Char.ofNat 0xE000) :
    FreeUpTo text rest :=
  h.trans ⟨[c], rfl, .cons other List.not_mem_nil⟩

theorem free (h : FreeUpTo text rest) (h' : SurrogateFree rest) : SurrogateFree text := by
  obtain ⟨head, rfl, free⟩ := h
  exact free.append h'

theorem dropWhile_isDecimalDigit (text : List Char) :
    FreeUpTo text (text.dropWhile isDecimalDigit) :=
  ⟨_, List.takeWhile_append_dropWhile, .of_all (by decide) fun _ mem => List.mem_takeWhile_imp mem⟩

theorem of_pair? {n : Nat} (h : pair? text = some (n, rest)) : FreeUpTo text rest := by
  obtain ⟨digits, eq, -⟩ := exists_of_pair? h
  exact ⟨_, eq, .of_all (by decide) digits.isDecimalDigit⟩

theorem of_sign? (text : List Char) : FreeUpTo text ((sign? text).getD (false, text)).2 := by
  unfold sign?
  split
  · exact ⟨['+'], rfl, by decide⟩
  · exact ⟨['-'], rfl, by decide⟩
  · exact ⟨[], rfl, by decide⟩

theorem of_dateHead? {wide : Bool} {date : Date} (read : dateHead? text = some (wide, date, rest)) :
    FreeUpTo text rest := by
  have signed := of_sign? text
  unfold dateHead? at read
  split at read
  next negative body eq =>
    rw [eq] at signed
    have year := dropWhile_isDecimalDigit body
    dsimp only at read signed
    split at read
    · cases read
    · split at read
      next monthOn dropped =>
        rw [dropped] at year
        split at read
        next month dayOn first =>
          obtain ⟨⟨day, left⟩, second, same⟩ := Option.map_eq_some_iff.mp read
          cases same
          exact (((signed.trans year).mark (by decide)).trans (of_pair? first)).mark (by decide)
            |>.trans (of_pair? second)
        · cases read
      · cases read

theorem of_timeHead? {time : TimeOfDay} (read : timeHead? text = some (time, rest)) :
    FreeUpTo text rest := by
  unfold timeHead? at read
  split at read
  next hour minuteOn first =>
    have hour := (of_pair? first).mark (by decide)
    split at read
    next minute secondOn second =>
      have minute := (hour.trans (of_pair? second)).mark (by decide)
      split at read
      next seconds mark fractionOn third =>
        have seconds := minute.trans (of_pair? third)
        split at read
        next dot =>
          dsimp only at read
          split at read
          · cases read
            have other : mark ≠ Char.ofNat 0xE000 := by
              rcases dot with rfl | rfl <;> decide
            exact (seconds.mark other).trans (dropWhile_isDecimalDigit _)
          · cases read
        · cases read
          exact seconds
      next third =>
        cases read
        exact minute.trans (of_pair? third)
      · cases read
    next second =>
      cases read
      exact hour.trans (of_pair? second)
    · cases read
  · cases read

end FreeUpTo

theorem ColonDigits.surrogateFree (d : ColonDigits) : SurrogateFree d.chars := by
  have digits : SurrogateFree d.digits.chars := .of_all (by decide) d.digits.isDecimalDigit
  unfold chars
  split
  · exact .cons (by decide) digits
  · exact digits

theorem OffsetRest.surrogateFree (r : OffsetRest) : SurrogateFree r.chars := by
  cases r with
  | nothing => exact List.not_mem_nil
  | minutes m => exact m.surrogateFree
  | seconds m s => exact m.surrogateFree.append s.surrogateFree

theorem surrogateFree_of_offsetTail? {text : List Char} {fields : OffsetFields}
    (read : offsetTail? text = some fields) : SurrogateFree text := by
  unfold offsetTail? at read
  split at read
  next zulu =>
    rcases zulu with rfl | rfl <;> decide
  · obtain ⟨⟨negative, rest⟩, signed, wide⟩ := Option.bind_eq_some_iff.mp read
    have lead := FreeUpTo.of_sign? text
    rw [signed] at lead
    obtain ⟨hour, minutes, rfl, -⟩ := exists_of_wideOffset? negative wide
    exact lead.free ((SurrogateFree.of_all (by decide) hour.isDecimalDigit).append
      minutes.surrogateFree)

namespace Literal

theorem surrogateFree_of_dated? {text : List Char} {l : Literal} (read : dated? text = some l) :
    SurrogateFree text := by
  unfold dated? at read
  split at read
  · cases read
  next date_eq => exact (FreeUpTo.of_dateHead? date_eq).free List.not_mem_nil
  next mark rest date_eq =>
    have date := FreeUpTo.of_dateHead? date_eq
    split at read
    next letter =>
      have other : mark ≠ Char.ofNat 0xE000 := by
        rcases letter with rfl | rfl <;> decide
      split at read
      · cases read
      next time_eq =>
        exact ((date.mark other).trans (.of_timeHead? time_eq)).free List.not_mem_nil
      next time_eq =>
        obtain ⟨offset, tail, -⟩ := Option.map_eq_some_iff.mp read
        exact ((date.mark other).trans (.of_timeHead? time_eq)).free
          (surrogateFree_of_offsetTail? tail)
    · cases read

theorem surrogateFree_of_timed? {text : List Char} {l : Literal} (read : timed? text = some l) :
    SurrogateFree text := by
  unfold timed? at read
  split at read
  next time_eq => exact (FreeUpTo.of_timeHead? time_eq).free List.not_mem_nil
  · cases read

/-- Only the mark between a year and a month may be a surrogate. -/
theorem scattered_of_yearly? {text : List Char} {l : Literal} (read : yearly? text = some l) :
    Scattered text := by
  have year : SurrogateFree (text.takeWhile Char.isDigit) :=
    .of_all (by decide) fun _ mem => List.mem_takeWhile_imp mem
  have whole := List.takeWhile_append_dropWhile (p := Char.isDigit) (l := text)
  unfold yearly? at read
  split at read
  · cases read
  next parts =>
    unfold yearMonthParts? at parts
    dsimp only at parts
    split at parts
    next dropped =>
      rw [dropped, List.append_nil] at whole
      rw [← whole]
      exact year.scattered
    next mark a b dropped =>
      split at parts
      next digits =>
        obtain ⟨ha, hb⟩ := Bool.and_eq_true_iff.mp digits
        have month : SurrogateFree [a, b] :=
          .of_all (p := Char.isDigit) (by decide) (by simp [ha, hb])
        have marked : Scattered [mark] := .singleton _
        rw [dropped] at whole
        rw [← whole]
        exact year.append_scattered (marked.append_free month)
      · cases parts
    · cases parts

theorem scattered_of_read? {text : List Char} {l : Literal} (read : read? text = some l) :
    Scattered text := by
  unfold read? at read
  rcases Option.or_eq_some_iff.mp read with dated | ⟨-, other⟩
  · exact (surrogateFree_of_dated? dated).scattered
  · rcases Option.or_eq_some_iff.mp other with timed | ⟨-, yearly⟩
    · exact (surrogateFree_of_timed? timed).scattered
    · exact scattered_of_yearly? yearly

end Literal

/-- The character as which surrogates are read is in no keyword. -/
theorem Anchor.surrogateFree_of_find? {text : List Char} {a : Anchor} (found : find? text = some a) :
    SurrogateFree text := by
  have itself : KeepsItself (Char.ofNat 0xE000) := ⟨by decide, by decide, by decide +kernel⟩
  have keyword : SurrogateFree a.keyword.toList := by cases a <;> decide +kernel
  intro mem
  apply keyword
  rw [← find?_eq_some_iff.mp found]
  exact itself.mem_keywordForm mem

theorem DurationParts.Spells.surrogateFree {text : List Char} {parts : DurationParts}
    (h : parts.Spells text) : SurrogateFree text := by
  obtain ⟨lead, gap, gap', trail, sign, signed, -, isDigit, -, isAlpha⟩ := h
  have sign_ : SurrogateFree sign := by
    rcases signed with rfl | rfl | rfl <;> decide
  have digits : SurrogateFree parts.digits := .of_all (by decide) isDigit
  have code : SurrogateFree parts.code := .of_all (by decide) isAlpha
  exact (((SurrogateFree.blanks lead).append (sign_.append ((SurrogateFree.blanks gap).append
    (digits.append ((SurrogateFree.blanks gap').append code)))))).append (.blanks trail)

theorem Duration.surrogateFree_of_read? {text : List Symbol} {value : Duration}
    (read : read? text = .ok (some value)) : SurrogateFree (text.map Symbol.reading) := by
  unfold read? at read
  split at read
  · cases read
  next found => exact (spells_of_durationParts? found).surrogateFree

theorem Duration.surrogateFree_of_read {text : List Symbol} {value : Duration}
    (h : read text = .ok value) : SurrogateFree (text.map Symbol.reading) := by
  unfold read at h
  split at h
  · cases h
  · cases h
  next found => exact surrogateFree_of_read? found

/-- In the text of an expression no two surrogates are on end. -/
theorem Expression.scattered_of_read {text : List Symbol} {e : Expression}
    (h : read text = .ok e) : Scattered (text.map Symbol.reading) := by
  cases literal : Literal.read? (text.map Symbol.reading) with
  | some value => exact Literal.scattered_of_read? literal
  | none =>
    cases split : splitSum? text with
    | some parts =>
      obtain ⟨base, -, read_left, -⟩ := exists_of_read_divided literal split h
      obtain ⟨d, read_right⟩ : ∃ d, Duration.read parts.right = .ok d := by
        rw [read_divided literal split] at h
        cases right : Duration.read parts.right with
        | error failure =>
          rw [right] at h
          cases h
        | ok d => exact ⟨d, rfl⟩
      have left := scattered_of_read read_left
      have right := Duration.surrogateFree_of_read read_right
      obtain ⟨before, s, after, rfl, sign, -, rfl⟩ := exists_of_splitSum? split
      rw [map_reading_trimSymbols] at left right
      have other : s.reading ≠ Char.ofNat 0xE000 := by
        intro same
        rw [same] at sign
        cases sign
      rw [List.map_append, List.map_cons]
      exact left.of_trim.append_free (.cons other right.of_trim)
    | none =>
      cases anchor : Anchor.find? (text.map Symbol.reading) with
      | some value => exact (Anchor.surrogateFree_of_find? anchor).scattered
      | none =>
        rw [read_duration literal split anchor] at h
        split at h
        · cases h
        next found => exact (Duration.surrogateFree_of_read? found).scattered
        · cases h
termination_by text.length
decreasing_by exact splitSum?_left_length split

/-- A text that names an instant is whole. -/
theorem Text.whole_of_evaluate {text : Text} {zone : Zone} {now i : Instant}
    (named : evaluate (some text) zone now = .ok i) : text.Whole := by
  obtain ⟨-, e, read, -⟩ := evaluate_ok_iff.mp named
  have trimmed := Expression.scattered_of_read read
  rw [map_reading_trimSymbols] at trimmed
  exact whole_of_scattered trimmed.of_trim

namespace Zone

theorem surrogateFree_of_isUtcName {id : List Char} (name : isUtcName id = true) :
    SurrogateFree id := by
  have letters : ∀ name ∈ ["z".toList, "utc".toList, "gmt".toList, "ut".toList],
      name.all Char.isAlpha = true := by decide
  have alpha := List.all_eq_true.mp (letters _ (List.contains_iff_mem.mp name))
  exact .of_all (by decide) fun _ mem => isAlpha_of_isAlpha_toLower (alpha _ (List.mem_map_of_mem mem))

theorem surrogateFree_of_readOffset? {id : List Char} {offset : Int}
    (read : readOffset? id = some offset) : SurrogateFree id := by
  obtain ⟨w, rfl, -⟩ := readOffset?_eq_some_iff.mp read
  have name : SurrogateFree w.name := .of_all (by decide) w.isAlpha_of_mem_name
  have hour : SurrogateFree w.hour.chars := .of_all (by decide) w.hour.isDecimalDigit
  have sign : signOf w.negative ≠ Char.ofNat 0xE000 := by
    cases w.negative <;> decide
  have lineEnd : SurrogateFree (if w.lineEnd then ['\n'] else []) := by
    cases w.lineEnd <;> decide
  exact (name.append (.cons sign (hour.append w.rest.surrogateFree))).append lineEnd

theorem surrogateFree_of_mem_namedZones : ∀ entry ∈ namedZones, SurrogateFree entry.1.toList := by
  decide +kernel

theorem surrogateFree_of_listed {id : List Char} {z : Zone}
    (found : (short? id).or (named? id) = some z) : SurrogateFree id := by
  rcases Option.or_eq_some_iff.mp found with short | ⟨-, named⟩
  · obtain ⟨entry, listed, -⟩ := Option.bind_eq_some_iff.mp short
    have plain : ∀ entry ∈ shortIds, SurrogateFree entry.1.toList := by decide
    have written := List.find?_some listed
    have same : entry.1.toList = id := of_decide_eq_true written
    rw [← same]
    exact plain _ (List.mem_of_find?_eq_some listed)
  · obtain ⟨rules, listed, -⟩ := Option.map_eq_some_iff.mp named
    obtain ⟨entry, listed, -⟩ := Option.map_eq_some_iff.mp listed
    have written := List.find?_some listed
    have same := of_decide_eq_true written
    intro mem
    apply surrogateFree_of_mem_namedZones _ (List.mem_of_find?_eq_some listed)
    rw [same]
    exact List.mem_map.mpr ⟨_, mem, by decide⟩

theorem whole_of_resolve {text : Text} {z : Zone} (resolved : resolve text = .ok z) :
    text.Whole := by
  obtain ⟨-, isId⟩ := resolve_ok_iff.mp resolved
  have id : SurrogateFree (trim text.chars) := by
    cases isId with
    | utc name => exact surrogateFree_of_isUtcName name
    | offset _ read => exact surrogateFree_of_readOffset? read
    | listed _ _ found => exact surrogateFree_of_listed found
  exact Text.whole_of_scattered id.of_trim.scattered

end Zone

end Almanac
