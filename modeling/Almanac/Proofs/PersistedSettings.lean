import Almanac.Proofs.ReloadedSettings

namespace Almanac

/-- The value that is asked for: an explicit one, or else the one that is there. -/
def askedValue (base : Settings) (overrides : List (String × Json)) (f : Setting) : Json :=
  (member? f.key overrides).getD (base.value f)

namespace SettingsFile

variable {file left : SettingsFile} {overrides : List (String × Json)} {env : Environment}
  {persist : Bool} {now : Instant}

/-- The three ways in which settings are brought together: the file is not read, the values are
refused, or settings come out. Only explicit values are saved, but a missing file is always made. -/
theorem bootstrap_cases {result : Except StoreFault Settings}
    (h : file.bootstrap overrides env persist now = (left, result)) :
    (∃ fault, file.settings now = .error fault ∧ result = .error (.unreadable fault) ∧ left = file)
      ∨ ∃ base, file.settings now = .ok base ∧
        ((∃ faults, (merged base overrides env).settings now = .error faults
            ∧ result = .error (.refused faults)
            ∧ left = if file.isNone && persist then some base.fileText else file)
          ∨ ∃ s, (merged base overrides env).settings now = .ok s ∧ result = .ok s
            ∧ left = if persist && !overrides.isEmpty then some s.fileText
              else if file.isNone && persist then some base.fileText else file) := by
  unfold bootstrap at h
  split at h
  next fault unread =>
    cases h
    exact .inl ⟨fault, unread, rfl, rfl⟩
  next base read =>
    right
    dsimp only at h
    split at h
    next faults refused =>
      cases h
      exact ⟨base, read, .inl ⟨faults, refused, rfl, rfl⟩⟩
    next s made =>
      cases h
      exact ⟨base, read, .inr ⟨s, made, rfl, rfl⟩⟩

/-- Settings that are not kept leave the file as it is. -/
theorem bootstrap_kept (file : SettingsFile) (overrides : List (String × Json)) (env : Environment)
    (now : Instant) : (file.bootstrap overrides env false now).1 = file := by
  rcases bootstrap_cases (Prod.mk.eta (p := file.bootstrap overrides env false now)).symm with
    ⟨_, _, _, kept⟩ | ⟨_, _, ⟨_, _, _, kept⟩ | ⟨_, _, _, kept⟩⟩
  all_goals simpa using kept

/-- Each setting has a value when all are merged. -/
theorem merged_eq_some (base : Settings) (overrides : List (String × Json)) (env : Environment)
    (f : Setting) :
    merged base overrides env f
      = some (((Draft.ofEnvironment env) f).getD (askedValue base overrides f)) := by
  have below : (Draft.ofMembers overrides).overriding (Draft.ofSettings base) f
      = some (askedValue base overrides f) := by
    unfold Draft.overriding Draft.ofMembers askedValue
    cases member? f.key overrides with
    | none => cases f <;> rfl
    | some value => rfl
  unfold merged
  rw [Draft.overriding, below]
  cases Draft.ofEnvironment env f <;> rfl

theorem getD_merged (base : Settings) (overrides : List (String × Json)) (env : Environment)
    (f : Setting) :
    (merged base overrides env f).getD (Settings.default.value f)
      = ((Draft.ofEnvironment env) f).getD (askedValue base overrides f) := by
  rw [merged_eq_some, Option.getD_some]

/-- Settings that are brought together and kept can be read again from the file, whenever they are
accepted. Without explicit values the file holds what it held before. With some of them it holds all
that came out, with surrogates that make a pair joined, so that a value of the environment takes the
place of the one that was asked for, unless both are the same. -/
theorem bootstrap_persisted {s : Settings}
    (done : file.bootstrap overrides env true now = (left, .ok s)) :
    ∃ base stored, file.settings now = .ok base ∧ left.settings now = .ok stored
      ∧ (∀ later, stored.Accepted later → left.settings later = .ok stored)
      ∧ ∀ f : Setting,
        (overrides = [] → stored.value f = base.value f)
          ∧ (overrides ≠ [] → stored.value f
            = (f.kept (((Draft.ofEnvironment env) f).getD (askedValue base overrides f))).joined)
          ∧ (stored.value f = f.kept (askedValue base overrides f)
            ↔ overrides = []
              ∨ (f.kept (askedValue base overrides f)).joined = f.kept (askedValue base overrides f)
                ∧ ∀ value, env f = some value →
                  f.kept (.string value) = f.kept (askedValue base overrides f)) := by
  rcases bootstrap_cases done with ⟨fault, -, failed, -⟩ | ⟨base, read, ⟨faults, -, failed, -⟩ | came⟩
  · cases failed
  · cases failed
  obtain ⟨s', made, same, rfl⟩ := came
  cases same
  have before : base.Accepted now := accepted_of_settings read
  obtain ⟨after, values⟩ := Draft.accepted_of_settings made
  cases overrides with
  | nil =>
    have unchanged (f : Setting) : base.value f = f.kept (base.value f) :=
      (Setting.kept_of_check (before f)).1
    refine ⟨base, base, read, ?_, ?_, fun f => ⟨fun _ => rfl, fun explicit => absurd rfl explicit,
      fun _ => .inl rfl, fun _ => unchanged f⟩⟩
    · cases file with
      | none => exact before.reloaded (whole_of_settings read)
      | some text => exact read
    · intro later still
      cases file with
      | none => exact still.reloaded (whole_of_settings read)
      | some text => exact settings_later read still
  | cons override others =>
    have explicit : override :: others ≠ [] := List.cons_ne_nil _ _
    refine ⟨base, s.joined, read, after.reloaded_joined,
      fun later still => (after.joined_iff.mp still).reloaded_joined, fun f =>
      ⟨fun none_ => absurd none_ explicit, fun _ => ?_, ?_⟩⟩
    · rw [Settings.value_joined, values f, getD_merged]
    · rw [Settings.value_joined, values f, getD_merged, Draft.ofEnvironment]
      cases env f with
      | none => simp
      | some text =>
        have same : (f.kept (.string text)).joined = f.kept (.string text) :=
          (f.whole_kept (Json.whole_ofString text)).joined_eq
        change (f.kept (.string text)).joined = _ ↔ _
        simp only [same, explicit, false_or, Option.some.injEq, forall_eq']
        refine ⟨fun taken => ⟨?_, taken⟩, And.right⟩
        rw [← taken, same]

theorem bootstrap_persisted_locale :
    bootstrap none [("locale", .string "de")] (fun _ => none) true ⟨0⟩
        = (some (Settings.fileText ⟨"UTC", "de", none⟩), .ok ⟨"UTC", "de", none⟩)
      ∧ ∃ stored : Settings,
        settings (some (Settings.fileText ⟨"UTC", "de", none⟩)) ⟨0⟩ = .ok stored
          ∧ ∀ f : Setting, stored.value f
            = f.kept (askedValue .default [("locale", .string "de")] f) := by
  have done : bootstrap none [("locale", .string "de")] (fun _ => none) true ⟨0⟩
      = (some (Settings.fileText ⟨"UTC", "de", none⟩), .ok ⟨"UTC", "de", none⟩) := rfl
  obtain ⟨base, stored, read, again, -, values⟩ := bootstrap_persisted done
  cases read
  have same (f : Setting) :
      (f.kept (askedValue .default [("locale", .string "de")] f)).joined
        = f.kept (askedValue .default [("locale", .string "de")] f) := by
    cases f <;> rfl
  exact ⟨done, stored, again, fun f => (values f).2.2.mpr (.inr ⟨same f, nofun⟩)⟩

/-- When an explicit locale is saved, the zone of the environment is saved along with it. -/
theorem bootstrap_saves_environment :
    bootstrap none [("locale", .string "de")] (fun f => if f = .zone then some "EST" else none) true
          ⟨0⟩
        = (some (Settings.fileText ⟨"EST", "de", none⟩), .ok ⟨"EST", "de", none⟩)
      ∧ settings (some (Settings.fileText ⟨"EST", "de", none⟩)) ⟨0⟩ = .ok ⟨"EST", "de", none⟩
      ∧ Settings.value ⟨"EST", "de", none⟩ .zone
        ≠ Setting.zone.kept (askedValue .default [("locale", .string "de")] .zone) := by
  have made : Draft.settings (Draft.ofSettings ⟨"EST", "de", none⟩) ⟨0⟩
      = .ok ⟨"EST", "de", none⟩ := rfl
  have whole : Settings.Whole ⟨"EST", "de", none⟩ :=
    Settings.whole_iff.mpr ⟨Text.whole_ofChars _, Text.whole_ofChars _, nofun⟩
  refine ⟨rfl, (Draft.settings_ofSettings.mp made).reloaded whole, fun same => ?_⟩
  exact absurd (Json.string.inj same) (by decide)

end SettingsFile

end Almanac
