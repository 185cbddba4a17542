import Almanac.Json.Reader
import Almanac.Proofs.WholeTexts

namespace Almanac

namespace Json

/-- A value all of whose strings are whole. -/
inductive Whole : Json → Prop
  | null : Whole null
  | bool (value : Bool) : Whole (bool value)
  | integer (value : Int) : Whole (integer value)
  | real (numeral : String) : Whole (real numeral)
  | string {value : Text} (h : value.Whole) : Whole (string value)
  | array {items : List Json} (h : ∀ item ∈ items, Whole item) : Whole (array items)
  | object {members : List (String × Json)} (h : ∀ member ∈ members, Whole member.2) :
    Whole (object members)

theorem whole_of_numberHead {negative : Bool} {text rest : List Char} {v : Json}
    (read : numberHead negative text = .ok (v, rest)) : v.Whole := by
  unfold numberHead at read
  extract_lets digits at read
  split at read
  · cases read
  · dsimp only at read
    split at read
    · split at read
      · cases read
      · cases read
        exact .integer _
    · cases read
      exact .real _

theorem whole_of_plainHead {text rest : List Char} {v : Json}
    (read : plainHead text = .ok (v, rest)) : v.Whole := by
  have words : ∀ word ∈ jsonWords, word.2.Whole := by
    simp only [jsonWords, List.forall_mem_cons]
    exact ⟨.null, .bool _, .bool _, .real _, .real _, .real _, nofun⟩
  unfold plainHead at read
  split at read
  next word value found =>
    cases read
    exact words _ (List.mem_of_find?_eq_some found)
  · split at read
    · exact whole_of_numberHead read
    · exact whole_of_numberHead read

/-- Up to a bound, all that is read from a text is whole. -/
structure ReadsWhole (bound : Nat) : Prop where
  value : ∀ {text rest : List Char} {v : Json}, valueHead bound text = .ok (v, rest) → v.Whole
  items : ∀ {text rest : List Char} {items : List Json}, itemsTail bound text = .ok (items, rest) →
    ∀ item ∈ items, item.Whole
  members : ∀ {text rest : List Char} {members : List (String × Json)},
    membersTail bound text = .ok (members, rest) → ∀ member ∈ members, member.2.Whole

namespace ReadsWhole

variable {bound : Nat}

theorem value_succ (h : ReadsWhole bound) {text rest : List Char} {v : Json}
    (read : valueHead (bound + 1) text = .ok (v, rest)) : v.Whole := by
  unfold valueHead at read
  split at read
  · split at read
    · cases read
    · cases read
      exact .string (Text.whole_ofUnits _)
  · split at read
    · cases read
      exact .array nofun
    · split at read
      · cases read
      next items =>
        cases read
        exact .array (h.items items)
  · split at read
    · cases read
      exact .object nofun
    · split at read
      · cases read
      next members =>
        cases read
        exact .object (h.members members)
  · exact whole_of_plainHead read

theorem items_succ (h : ReadsWhole bound) {text rest : List Char} {items : List Json}
    (read : itemsTail (bound + 1) text = .ok (items, rest)) : ∀ item ∈ items, item.Whole := by
  unfold itemsTail at read
  split at read
  · cases read
  next first =>
    have first := h.value first
    split at read
    · cases read
      exact List.forall_mem_singleton.mpr first
    · split at read
      · cases read
      next others =>
        cases read
        exact List.forall_mem_cons.mpr ⟨first, h.items others⟩
    · cases read

theorem members_succ (h : ReadsWhole bound) {text rest : List Char} {members : List (String × Json)}
    (read : membersTail (bound + 1) text = .ok (members, rest)) :
    ∀ member ∈ members, member.2.Whole := by
  unfold membersTail at read
  split at read
  · split at read
    · cases read
    · dsimp only at read
      split at read
      · split at read
        · cases read
        next first =>
          have first := h.value first
          split at read
          · cases read
            exact List.forall_mem_singleton.mpr first
          · split at read
            · cases read
            next others =>
              cases read
              exact List.forall_mem_cons.mpr ⟨first, h.members others⟩
          · cases read
      · cases read
  · cases read

end ReadsWhole

theorem readsWhole (bound : Nat) : ReadsWhole bound := by
  induction bound with
  | zero =>
    refine ⟨fun read => ?_, fun read => ?_, fun read => ?_⟩
    · unfold valueHead at read
      cases read
    · unfold itemsTail at read
      cases read
    · unfold membersTail at read
      cases read
  | succ bound ih => exact ⟨ih.value_succ, ih.items_succ, ih.members_succ⟩

/-- In what is read from a text no pair of surrogates is left that is not one character. -/
theorem whole_of_read {text : List Char} {v : Json} (read : Json.read text = .ok v) : v.Whole := by
  unfold Json.read at read
  split at read
  · cases read
  next value =>
    split at read
    · cases read
      exact (readsWhole _).value value
    · cases read

theorem whole_of_member? {members : List (String × Json)} (h : ∀ member ∈ members, member.2.Whole)
    {name : String} {v : Json} (found : member? name members = some v) : v.Whole := by
  induction members with
  | nil => cases found
  | cons member others ih =>
    obtain ⟨key, value⟩ := member
    have first := h _ List.mem_cons_self
    unfold member? at found
    split at found
    next later =>
      cases found
      exact ih (fun member mem => h member (List.mem_cons_of_mem _ mem)) later
    · split at found
      · cases found
        exact first
      · cases found

end Json

end Almanac
