import Almanac.Settings.KeyPath

namespace Almanac

theorem pieces_eq_splitOn (mark : Char) (text : List Char) :
    pieces mark text = text.splitOn mark := by
  induction text with
  | nil => rfl
  | cons c rest ih =>
    rw [List.splitOn_cons_eq_if_modifyHead, pieces, ih]
    cases split : rest.splitOn mark with
    | nil => exact absurd split (List.splitOn_ne_nil mark rest)
    | cons first others => by_cases same : c = mark <;> simp [same]

theorem Setting.ofKey?_eq_some_iff {key : String} {f : Setting} :
    Setting.ofKey? key = some f ↔ key = f.key := by
  constructor
  · intro found
    have same := List.find?_some found
    exact (of_decide_eq_true same).symm
  · rintro rfl
    cases f <;> decide

/-- The path of keys that leads to a setting. -/
def Setting.path (f : Setting) : List Char :=
  sectionKey.toList ++ '.' :: f.key.toList

namespace KeyTarget

variable {path : List Char}

theorem ofPath_section : ofPath sectionKey.toList = wholeSection := by
  decide

theorem ofPath_path (f : Setting) : ofPath f.path = setting f := by
  cases f <;> decide

theorem ofPath_below (f : Setting) (rest : List Char) :
    ofPath (f.path ++ '.' :: rest) = belowSetting f (pieces '.' rest).length := by
  have key : '.' ∉ f.key.toList := by
    cases f <;> decide
  have parts : pieces '.' (f.path ++ '.' :: rest)
      = sectionKey.toList :: f.key.toList :: pieces '.' rest := by
    rw [pieces_eq_splitOn, pieces_eq_splitOn, Setting.path, List.append_assoc, List.cons_append,
      List.splitOn_append_cons_self_of_not_mem (by decide),
      List.splitOn_append_cons_self_of_not_mem key]
  have more : (pieces '.' rest).isEmpty = false := by
    rw [pieces_eq_splitOn, List.isEmpty_eq_false_iff]
    exact List.splitOn_ne_nil _ _
  have known : Setting.ofKey? f.key = some f := Setting.ofKey?_eq_some_iff.mpr rfl
  unfold ofPath
  rw [parts]
  simp [known, more]

/-- A path of keys leads to the section, to a setting or below one, each by its text, or elsewhere. -/
theorem ofPath_cases (path : List Char) :
    path = sectionKey.toList
      ∨ (∃ f, path = Setting.path f)
      ∨ (∃ f rest, path = Setting.path f ++ '.' :: rest)
      ∨ ofPath path = elsewhere := by
  have text : ['.'].intercalate (pieces '.' path) = path := by
    rw [pieces_eq_splitOn, List.intercalate_splitOn]
  unfold ofPath
  cases parts : pieces '.' path with
  | nil => exact .inr (.inr (.inr rfl))
  | cons outer inner =>
    rw [parts] at text
    simp only [List.map_cons]
    split
    · exact .inr (.inr (.inr rfl))
    next named =>
      have outer_eq : outer = sectionKey.toList := by
        rw [← Classical.not_not.mp named, String.toList_ofList]
      subst outer_eq
      cases inner with
      | nil =>
        rw [List.intercalate_singleton] at text
        exact .inl text.symm
      | cons key below =>
        simp only [List.map_cons]
        split
        · exact .inr (.inr (.inr rfl))
        next f known =>
          have key_eq : key = f.key.toList := by
            rw [← Setting.ofKey?_eq_some_iff.mp known, String.toList_ofList]
          subst key_eq
          right
          cases below with
          | nil =>
            rw [List.intercalate_cons_cons, List.intercalate_singleton] at text
            exact .inl ⟨f, by rw [← text, Setting.path]; simp⟩
          | cons next rest =>
            rw [List.intercalate_cons_cons, List.intercalate_cons_cons] at text
            exact .inr (.inl ⟨f, _, by rw [← text, Setting.path]; simp; rfl⟩)

/-- A path that leads elsewhere is the text neither of the section nor of a setting, and does not
begin like one below a setting. -/
theorem ofPath_eq_elsewhere_iff :
    ofPath path = elsewhere
      ↔ path ≠ sectionKey.toList ∧ ∀ f, path ≠ Setting.path f
        ∧ ∀ rest, path ≠ Setting.path f ++ '.' :: rest := by
  constructor
  · intro target
    refine ⟨?_, fun f => ⟨?_, fun rest => ?_⟩⟩
    · rintro rfl
      rw [ofPath_section] at target
      cases target
    · rintro rfl
      rw [ofPath_path] at target
      cases target
    · rintro rfl
      rw [ofPath_below] at target
      cases target
  · rintro ⟨section_, setting_⟩
    rcases ofPath_cases path with here | ⟨f, here⟩ | ⟨f, rest, here⟩ | target
    · exact absurd here section_
    · exact absurd here (setting_ f).1
    · exact absurd here ((setting_ f).2 rest)
    · exact target

end KeyTarget

namespace Setting

variable {f g : Setting}

theorem path_injective (h : f.path = g.path) : f = g := by
  have target := KeyTarget.ofPath_path f
  rw [h, KeyTarget.ofPath_path] at target
  cases target
  rfl

theorem path_ne_section (f : Setting) : f.path ≠ sectionKey.toList := by
  intro same
  have target := KeyTarget.ofPath_path f
  rw [same, KeyTarget.ofPath_section] at target
  cases target

theorem path_ne_below (f g : Setting) (rest : List Char) : f.path ≠ g.path ++ '.' :: rest := by
  intro same
  have target := KeyTarget.ofPath_path f
  rw [same, KeyTarget.ofPath_below] at target
  cases target

theorem below_ne_section (f : Setting) (rest : List Char) :
    f.path ++ '.' :: rest ≠ sectionKey.toList := by
  intro same
  have target := KeyTarget.ofPath_below f rest
  rw [same, KeyTarget.ofPath_section] at target
  cases target

end Setting

end Almanac
