import Almanac.Command.Basic
import Almanac.Proofs.ChosenSettings

namespace Almanac

namespace SettingsFile

variable {file left : SettingsFile} {overrides : List (String × Json)} {env : Environment}
  {persist : Bool} {now : Instant} {base s : Settings} {result : Except StoreFault Settings}

/-- A value that is chosen over settings in which it was chosen before is the same, or the one that
they hold. -/
theorem chosenValue_again (base s : Settings) (overrides : List (String × Json)) (env : Environment)
    (f : Setting) :
    chosenValue s overrides env f = chosenValue base overrides env f
      ∨ chosenValue s overrides env f = s.value f := by
  unfold chosenValue
  cases env f with
  | some text => exact .inl rfl
  | none =>
    cases member? f.key overrides with
    | some value => exact .inl rfl
    | none => exact .inr rfl

/-- Settings that came out of a merge come out again if they take the place of those below. -/
theorem settings_merged_again (made : (merged base overrides env).settings now = .ok s) :
    (merged s overrides env).settings now = .ok s := by
  have accepted := (Draft.accepted_of_settings made).1
  have each := Draft.settings_eq_ok_iff.mp made
  rw [Draft.settings_eq_ok_iff]
  intro f
  have made_f := each f
  rw [merged_eq] at made_f ⊢
  rcases chosenValue_again base s overrides env f with same | held
  · rw [same]
    exact made_f
  · rw [held]
    exact accepted f

/-- What is brought together from a file that is there. -/
theorem bootstrap_of_read {text : List Char} (read : settings (some text) now = .ok base) :
    bootstrap (some text) overrides env persist now =
      match (merged base overrides env).settings now with
      | .error faults => (some text, .error (.refused faults))
      | .ok s => (if persist && !overrides.isEmpty then some s.fileText else some text, .ok s) := by
  unfold bootstrap
  rw [read]
  rfl

theorem whole_of_merged (below : base.Whole) (given : ∀ member ∈ overrides, member.2.Whole)
    (made : (merged base overrides env).settings now = .ok s) : s.Whole := by
  intro f
  rw [value_of_merged made]
  apply f.whole_kept
  unfold chosenValue
  split
  · exact Json.whole_ofString _
  · split
    next found => exact Json.whole_of_member? given found
    · exact below f

/-- When settings have been brought together and kept, doing so again comes to the same end and
leaves the file as it is. -/
theorem bootstrap_again (given : ∀ member ∈ overrides, member.2.Whole)
    (ran : file.bootstrap overrides env true now = (left, result)) :
    left.bootstrap overrides env true now = (left, result) := by
  rcases bootstrap_cases ran with ⟨fault, -, -, rfl⟩ | ⟨base, read, ended⟩
  · exact ran
  -- A missing file has been made by now, and is read as what it was made with.
  obtain ⟨text, there, again⟩ : ∃ text,
      (if file.isNone && true then some base.fileText else file) = some text
        ∧ settings (some text) now = .ok base := by
    cases file with
    | none => exact ⟨_, rfl, (accepted_of_settings read).reloaded (whole_of_settings read)⟩
    | some text => exact ⟨text, rfl, read⟩
  rcases ended with ⟨faults, refused, rfl, rfl⟩ | ⟨s, made, rfl, rfl⟩
  · rw [there, bootstrap_of_read again, refused]
  · cases overrides with
    | nil =>
      rw [if_neg (by simp), there, bootstrap_of_read again, made]
      rfl
    | cons override others =>
      have whole := whole_of_merged (whole_of_settings read) given made
      have reread := (Draft.accepted_of_settings made).1.reloaded whole
      rw [if_pos (by simp), bootstrap_of_read reread, settings_merged_again made]
      rfl

/-- An explicit value is read from the file afterwards, unless the environment has another one. -/
theorem explicit_kept (given : ∀ member ∈ overrides, member.2.Whole)
    (ran : file.bootstrap overrides env true now = (left, .ok s)) {f : Setting} {value : Json}
    (explicit : member? f.key overrides = some value) (free : env f = none) :
    left.settings now = .ok s ∧ s.value f = f.kept value := by
  rcases bootstrap_cases ran with ⟨_, _, failed, _⟩ | ⟨base, read, refused | settled⟩
  · cases failed
  · obtain ⟨_, -, failed, -⟩ := refused
    cases failed
  · obtain ⟨_, made, same, rfl⟩ := settled
    cases same
    have some_ : overrides.isEmpty = false := by
      cases overrides with
      | nil => cases explicit
      | cons => rfl
    rw [if_pos (by rw [some_]; rfl)]
    have whole := whole_of_merged (whole_of_settings read) given made
    refine ⟨(Draft.accepted_of_settings made).1.reloaded whole, ?_⟩
    rw [value_of_merged made, chosenValue, free, explicit]

end SettingsFile

/-- How making the settings file ends, by what comes out of it. -/
def Outcome.ofInit (path : String) : Except StoreFault Settings → Outcome
  | .error fault => ofStoreFault path fault
  | .ok s => printed ("Configuration initialized at " ++ path ++ "\n" ++ String.ofList s.fileText)

theorem Outcome.exitCode_ofInit_iff {path : String} {result : Except StoreFault Settings} :
    (Outcome.ofInit path result).exitCode = 0 ↔ ∃ s, result = .ok s := by
  cases result with
  | ok s => exact ⟨fun _ => ⟨s, rfl⟩, fun _ => rfl⟩
  | error fault => simp [ofInit]

theorem Command.configInit_run {zone? locale? pinnedNow? : Option String}
    {file left : SettingsFile} {around : Surroundings} {result : Except StoreFault Settings}
    (made : file.bootstrap (overridesOf zone? locale? pinnedNow?) around.env true around.now
      = (left, result)) :
    (configInit zone? locale? pinnedNow?).run file around = (left, .ofInit around.path result) := by
  unfold run
  dsimp only
  rw [made]
  cases result <;> rfl

theorem whole_of_overridesOf {zone? locale? pinnedNow? : Option String} :
    ∀ member ∈ overridesOf zone? locale? pinnedNow?, member.2.Whole := by
  intro member mem
  obtain ⟨_, -, made⟩ := List.mem_filterMap.mp mem
  obtain ⟨value, given, rfl⟩ := Option.map_eq_some_iff.mp made
  obtain ⟨text, -, same⟩ := Option.bind_eq_some_iff.mp given
  cases same
  exact Json.whole_ofString text

/-- Making the settings file a second time ends as the first time did, and leaves the file as that
left it. It ends well just where the file is read and the chosen values are accepted, and then the
file holds the values that are given and that the environment leaves alone. -/
theorem Command.configInit_again (zone? locale? pinnedNow? : Option String) (file : SettingsFile)
    (around : Surroundings) :
    ∃ left outcome, (configInit zone? locale? pinnedNow?).run file around = (left, outcome)
      ∧ (configInit zone? locale? pinnedNow?).run left around = (left, outcome)
      ∧ (outcome.exitCode = 0 ↔ ∃ base, file.settings around.now = .ok base
        ∧ ∀ f : Setting, f.Accepts around.now
          (chosenValue base (overridesOf zone? locale? pinnedNow?) around.env f))
      ∧ (outcome.exitCode = 0 → ∀ (f : Setting) (value : Json),
        member? f.key (overridesOf zone? locale? pinnedNow?) = some value → around.env f = none →
          ∃ s, left.settings around.now = .ok s ∧ s.value f = f.kept value) := by
  obtain ⟨left, result, made⟩ : ∃ left result,
      file.bootstrap (overridesOf zone? locale? pinnedNow?) around.env true around.now
        = (left, result) := ⟨_, _, rfl⟩
  have again := SettingsFile.bootstrap_again whole_of_overridesOf made
  refine ⟨left, .ofInit around.path result, configInit_run made, configInit_run again, ?_, ?_⟩
  · rw [Outcome.exitCode_ofInit_iff]
    exact SettingsFile.exists_result_iff made
  · intro done f value explicit free
    obtain ⟨s, rfl⟩ := Outcome.exitCode_ofInit_iff.mp done
    exact ⟨s, SettingsFile.explicit_kept whole_of_overridesOf made explicit free⟩

end Almanac
