import Almanac.Proofs.OffsetIds
import Almanac.Proofs.OffsetTexts
import Almanac.Proofs.ZoneTable

namespace Almanac

namespace WrittenOffsetId

variable (w : WrittenOffsetId)

/-- The id without its line end. -/
def bare : WrittenOffsetId :=
  { w with lineEnd := false }

theorem chars_bare : w.bare.chars = w.body := by
  rw [chars, bare]
  simp [body, numbers]

/-- There is no white space in an id of an offset but for the line end. -/
theorem trim_chars : trim w.chars = w.bare.chars := by
  have blank : ∀ c ∈ if w.lineEnd then ['\n'] else [], isBlank c = true := by
    split
    · exact List.forall_mem_singleton.mpr rfl
    · simp
  rw [chars_bare, chars, trim, trimBy_append_blank blank, trimBy_of_visible w.not_isBlank_body]

/-- No name of UTC has a sign. -/
theorem isUtcName_bare : Zone.isUtcName w.bare.chars = false := by
  have letters : ∀ name ∈ ["z".toList, "utc".toList, "gmt".toList, "ut".toList],
      name.all Char.isAlpha = true := by decide
  rw [Zone.isUtcName, ← Bool.not_eq_true, List.contains_iff_mem, chars_bare]
  intro mem
  have sign : signOf w.negative ∈ w.body := by simp [body]
  have lower := List.all_eq_true.mp (letters _ mem) _ (List.mem_map_of_mem sign)
  have letter := isAlpha_of_isAlpha_toLower lower
  have other := not_isSign_of_isAlpha letter
  rw [isSign_signOf] at other
  cases other

end WrittenOffsetId

/-- An offset reads back from its text, as long as clocks may have it. -/
theorem readOffset?_offsetText {offset : Int} (h : offset.natAbs ≤ 68399) :
    (if offsetText offset = ['Z'] ∨ offsetText offset = ['z'] then some 0
      else readOffset? (offsetText offset)) = some offset := by
  rw [← WrittenOffset.chars_ofSeconds h, WrittenOffset.readOffset?_chars,
    WrittenOffset.total?_fields, if_pos (WrittenOffset.inRange_ofSeconds h),
    WrittenOffset.seconds_ofSeconds]

theorem offsetText_inj {a b : Int} (ha : a.natAbs ≤ 68399) (hb : b.natAbs ≤ 68399) :
    offsetText a = offsetText b ↔ a = b := by
  constructor
  · intro same
    have read := readOffset?_offsetText ha
    rw [same, readOffset?_offsetText hb] at read
    exact (Option.some.inj read).symm
  · exact congrArg offsetText

namespace Zone

/-- White space around an id does not matter, for the zone as for the failure. -/
theorem resolve_of_blanks {text padded : Text} {lead trail : List Symbol}
    (before : ∀ s ∈ lead, s.isBlank = true) (after : ∀ s ∈ trail, s.isBlank = true)
    (around : padded.symbols = lead ++ (text.symbols ++ trail)) : resolve padded = resolve text := by
  have trimmed : trimSymbols padded.symbols = trimSymbols text.symbols := by
    rw [around, trimSymbols, trimBy_blank_append before, trimBy_append_blank after]
  unfold resolve
  rw [trimmed]

theorem resolve_of_readOffset? {text : Text} {offset : Int}
    (read : readOffset? text.chars = some offset) : resolve text = .ok (atOffset offset) := by
  obtain ⟨w, chars, total⟩ := readOffset?_eq_some_iff.mp read
  have bare : readOffset? w.bare.chars = some offset := w.bare.readOffset?_chars.trans total
  rw [resolve_ok_iff, ← chars, w.trim_chars]
  refine ⟨?_, .offset w.isUtcName_bare bare⟩
  rw [w.chars_bare]
  exact List.append_ne_nil_of_right_ne_nil _ (List.cons_ne_nil _ _)

theorem resolve_id_atOffset {offset : Int} (near : offset.natAbs ≤ 68399) :
    resolve (atOffset offset).id = .ok (atOffset offset) := by
  have chars : (Text.ofString (atOffset offset).id).chars = offsetText offset := by
    rw [Text.ofString, Text.chars_ofChars, atOffset, String.toList_ofList]
  have read := readOffset?_offsetText near
  split at read
  · cases read
    decide
  · rw [← chars] at read
    exact resolve_of_readOffset? read

/-- A listed zone is called by the id for which it is found. -/
theorem toList_id_of_listed {id : List Char} {z : Zone}
    (found : (short? id).or (named? id) = some z) : z.id.toList = id := by
  rcases Option.or_eq_some_iff.mp found with short | ⟨-, named⟩
  · obtain ⟨entry, listed, meant⟩ := Option.bind_eq_some_iff.mp short
    have named := List.find?_some listed
    have same : entry.1.toList = id := of_decide_eq_true named
    split at meant
    · cases meant
      exact same
    · obtain ⟨rules, -, rfl⟩ := Option.map_eq_some_iff.mp meant
      exact same
  · obtain ⟨rules, -, rfl⟩ := Option.map_eq_some_iff.mp named
    exact String.toList_ofList

theorem resolve_id {text : Text} {z : Zone} (h : resolve text = .ok z) : resolve z.id = .ok z := by
  obtain ⟨filled, isId⟩ := resolve_ok_iff.mp h
  cases isId with
  | utc name => decide
  | offset other read =>
    have range := readOffset?_range read
    exact resolve_id_atOffset (by omega)
  | listed other unread found =>
    have id : trim (Text.ofString z.id).chars = trim text.chars := by
      rw [Text.ofString, Text.chars_ofChars, toList_id_of_listed found, trim, trimBy_trimBy]
    rw [resolve_ok_iff, id]
    exact ⟨filled, .listed other unread found⟩

/-- Ids are stable. The zone of an id, asked for by its own id, is the same zone again, with the same
offsets. White space around an id does not matter. The ids of offsets, in whichever spelling, have
clocks that are fixed at the offset, no more than 68399 seconds from UTC, and the zones are called
the same exactly if the offsets are equal. -/
theorem resolve_stable :
    (∀ (text : Text) (z : Zone), resolve text = .ok z → resolve z.id = .ok z)
      ∧ (∀ (text padded : Text) (lead trail : List Symbol), (∀ s ∈ lead, s.isBlank = true) →
        (∀ s ∈ trail, s.isBlank = true) → padded.symbols = lead ++ (text.symbols ++ trail) →
        resolve padded = resolve text)
      ∧ ∀ (t u : Text) (a b : Int), readOffset? t.chars = some a → readOffset? u.chars = some b →
        ∃ y z : Zone, resolve t = .ok y ∧ resolve u = .ok z
          ∧ y.fixedOffset? = some a ∧ z.fixedOffset? = some b
          ∧ a.natAbs ≤ 68399 ∧ b.natAbs ≤ 68399 ∧ (y.id = z.id ↔ a = b) := by
  refine ⟨fun _ _ => resolve_id, fun _ _ _ _ => resolve_of_blanks, fun t u a b first second => ?_⟩
  have hour := readOffset?_range first
  have hour' := readOffset?_range second
  have near : a.natAbs ≤ 68399 := by omega
  have near' : b.natAbs ≤ 68399 := by omega
  refine ⟨atOffset a, atOffset b, resolve_of_readOffset? first, resolve_of_readOffset? second, rfl,
    rfl, near, near', ?_⟩
  exact String.ofList_inj.trans (offsetText_inj near near')

/-- Two spellings of two hours and a half west of UTC, and a short id between a tab and a line
separator. -/
theorem resolve_stable_of_spellings :
    (∃ y z : Zone, resolve "gmt-230" = .ok y ∧ resolve "-02:30:00" = .ok z ∧ y.id = z.id)
      ∧ resolve "-02:30" = .ok (atOffset (-9000))
      ∧ resolve "\tEST\u2028" = .ok ⟨"EST", .fixed (-18000)⟩ := by
  obtain ⟨again, padded, offsets⟩ := resolve_stable
  have narrow : readOffset? (Text.ofString "gmt-230").chars = some (-9000) := by decide
  have wide : readOffset? (Text.ofString "-02:30:00").chars = some (-9000) := by decide
  have id : (atOffset (-9000)).id = "-02:30" := by decide
  have back := again "gmt-230" (atOffset (-9000)) (by decide)
  rw [id] at back
  obtain ⟨y, z, first, second, -, -, -, -, called⟩ := offsets _ _ _ _ narrow wide
  refine ⟨⟨y, z, first, second, called.mpr rfl⟩, back, ?_⟩
  rw [padded "EST" "\tEST\u2028" [.char '\t'] [.char '\u2028'] (by decide) (by decide) (by decide)]
  decide

end Zone

end Almanac
