import Almanac.Proofs.PersistedSettings

namespace Almanac

/-- The value that is chosen for a setting: that of the environment, even an empty one, or else an
explicit one, or else the one that is there. -/
def chosenValue (base : Settings) (overrides : List (String × Json)) (env : Environment)
    (f : Setting) : Json :=
  match env f with
  | some text => .string text
  | none =>
    match member? f.key overrides with
    | some value => value
    | none => base.value f

namespace SettingsFile

variable {file : SettingsFile} {overrides : List (String × Json)} {env : Environment}
  {persist : Bool} {now : Instant} {base s : Settings}

theorem merged_eq (base : Settings) (overrides : List (String × Json)) (env : Environment)
    (f : Setting) : merged base overrides env f = some (chosenValue base overrides env f) := by
  rw [merged_eq_some]
  unfold Draft.ofEnvironment askedValue chosenValue
  cases env f with
  | some text => rfl
  | none => cases member? f.key overrides <;> rfl

theorem exists_settings_merged_iff :
    (∃ s, (merged base overrides env).settings now = .ok s)
      ↔ ∀ f : Setting, f.Accepts now (chosenValue base overrides env f) := by
  rw [Draft.exists_settings_iff]
  constructor
  · intro h f
    exact h f _ (merged_eq base overrides env f)
  · intro h f value given
    rw [merged_eq] at given
    cases given
    exact h f

theorem value_of_merged (made : (merged base overrides env).settings now = .ok s) (f : Setting) :
    s.value f = f.kept (chosenValue base overrides env f) := by
  rw [(Draft.accepted_of_settings made).2 f, merged_eq, Option.getD_some]

/-- Settings come out of a file that is read on its own and of one accepted value for each setting. -/
theorem exists_result_iff {left : SettingsFile} {result : Except StoreFault Settings}
    (ran : file.bootstrap overrides env persist now = (left, result)) :
    (∃ s, result = .ok s) ↔ ∃ base, file.settings now = .ok base
      ∧ ∀ f : Setting, f.Accepts now (chosenValue base overrides env f) := by
  rcases bootstrap_cases ran with ⟨fault, unread, rfl, -⟩ | ⟨base, read, refused | settled⟩
  · refine ⟨nofun, ?_⟩
    rintro ⟨base, read, -⟩
    rw [unread] at read
    cases read
  · obtain ⟨faults, refused, rfl, -⟩ := refused
    refine ⟨nofun, ?_⟩
    rintro ⟨base', read', accepts⟩
    cases read.symm.trans read'
    obtain ⟨s, made⟩ := exists_settings_merged_iff.mpr accepts
    rw [refused] at made
    cases made
  · obtain ⟨s, made, rfl, -⟩ := settled
    exact ⟨fun _ => ⟨base, read, exists_settings_merged_iff.mp ⟨s, made⟩⟩, fun _ => ⟨s, rfl⟩⟩

/-- The file is read on its own first, and then for each setting one value is chosen that has to be
accepted. What comes out holds the chosen values. What does not is told as settings that are not
valid, unless there is a number of too many digits in the file. -/
theorem bootstrap_chosen (file : SettingsFile) (overrides : List (String × Json))
    (env : Environment) (persist : Bool) (now : Instant) :
    ∃ left result, file.bootstrap overrides env persist now = (left, result)
      ∧ ((∃ s, result = .ok s) ↔ ∃ base, file.settings now = .ok base
        ∧ ∀ f : Setting, f.Accepts now (chosenValue base overrides env f))
      ∧ (∀ s, result = .ok s → ∃ base, file.settings now = .ok base
        ∧ ∀ f : Setting, s.value f = f.kept (chosenValue base overrides env f))
      ∧ ∀ fault, result = .error fault →
        (fault.category? = some .settings
          ↔ ∀ digits, file.settings now ≠ .error (.longNumeral digits)) := by
  obtain ⟨left, result, ran⟩ :
      ∃ left result, file.bootstrap overrides env persist now = (left, result) := ⟨_, _, rfl⟩
  refine ⟨left, result, ran, exists_result_iff ran, ?_, ?_⟩
  · rintro s rfl
    rcases bootstrap_cases ran with ⟨_, _, failed, _⟩ | ⟨base, read, refused | settled⟩
    · cases failed
    · obtain ⟨_, -, failed, -⟩ := refused
      cases failed
    · obtain ⟨_, made, same, -⟩ := settled
      cases same
      exact ⟨base, read, value_of_merged made⟩
  · rintro fault rfl
    rcases bootstrap_cases ran with ⟨unread, failed, same, _⟩ | ⟨base, read, refused | settled⟩
    · cases same
      rw [failed]
      cases unread <;> simp [StoreFault.category?]
    · obtain ⟨_, -, same, -⟩ := refused
      cases same
      rw [read]
      exact ⟨fun _ => nofun, fun _ => rfl⟩
    · obtain ⟨_, -, same, -⟩ := settled
      cases same

/-- A number of too many digits is all that a file has to hold. -/
theorem bootstrap_longNumeral :
    ∃ text : List Char, text = List.replicate 4301 '1'
      ∧ bootstrap (some text) [] (fun _ => none) true ⟨0⟩
        = (some text, .error (.unreadable (.longNumeral 4301)))
      ∧ StoreFault.category? (.unreadable (.longNumeral 4301)) ≠ some .settings := by
  obtain ⟨text, given⟩ : ∃ text : List Char, text = List.replicate 4301 '1' := ⟨_, rfl⟩
  have length : text.length = 4301 := by rw [given, List.length_replicate]
  have digits : ∀ c ∈ text, c = '1' := by
    rw [given]
    exact fun c => List.eq_of_mem_replicate
  have unread : settings (some text) ⟨0⟩ = .error (.longNumeral 4301) := by
    have long := Json.read_of_long (fun c mem => by rw [digits c mem]; rfl)
      (by rw [given]; decide) (show digitLimit < text.length by rw [length]; decide)
    unfold settings Settings.ofFileText
    dsimp only
    rw [long, length]
  refine ⟨text, given, ?_, nofun⟩
  unfold bootstrap
  rw [unread]

end SettingsFile

end Almanac
