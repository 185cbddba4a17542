import Almanac.Command.Basic
import Almanac.Proofs.ReloadedSettings
import Almanac.Proofs.KeyPaths

namespace Almanac

namespace Draft

variable {base s : Settings} {now : Instant} {f : Setting} {value : Json}

theorem assign_ofSettings (base : Settings) (f : Setting) (value : Json) (g : Setting) :
    (Draft.ofSettings base).assign f value g = some (if g = f then value else base.value g) := by
  unfold Draft.assign
  split
  · rfl
  · cases g <;> rfl

/-- A value is taken into accepted settings just where it is accepted for its setting. -/
theorem exists_settings_assign_iff (before : base.Accepted now) :
    (∃ s, ((Draft.ofSettings base).assign f value).settings now = .ok s) ↔ f.Accepts now value := by
  rw [exists_settings_iff]
  constructor
  · intro h
    apply h f value
    rw [assign_ofSettings, if_pos rfl]
  · intro h g given same
    rw [assign_ofSettings] at same
    cases same
    split
    next target => rw [target]; exact h
    · exact ⟨_, before g⟩

/-- Only the setting that is assigned has another value than before. -/
theorem value_of_assign (before : base.Accepted now)
    (made : ((Draft.ofSettings base).assign f value).settings now = .ok s) (g : Setting) :
    s.value g = if g = f then f.kept value else base.value g := by
  rw [(accepted_of_settings made).2 g, assign_ofSettings, Option.getD_some]
  split
  next target => rw [target]
  · exact (Setting.kept_of_check (before g)).1.symm

theorem whole_of_assign (before : base.Accepted now) (base_whole : base.Whole) (whole : value.Whole)
    (made : ((Draft.ofSettings base).assign f value).settings now = .ok s) : s.Whole := by
  intro g
  rw [value_of_assign before made]
  split
  · exact f.whole_kept whole
  · exact base_whole g

/-- A value that is not taken into accepted settings is the only one of them at fault. -/
theorem settings_assign_of_error {fault : ValueFault} (before : base.Accepted now)
    (refused : f.check now value = .error fault) :
    ((Draft.ofSettings base).assign f value).settings now = .error [(f, fault)] := by
  have zone : Settings.checkZone (.string base.zone) = .ok base.zone :=
    (map_eq_ok_iff Json.string.inj).mp (before .zone)
  have locale : Settings.checkLocale (.string base.locale) = .ok base.locale :=
    (map_eq_ok_iff Json.string.inj).mp (before .locale)
  have pinnedNow : Settings.checkPinnedNow now (textOrNull base.pinnedNow) = .ok base.pinnedNow :=
    (map_eq_ok_iff textOrNull_injective).mp (before .pinnedNow)
  unfold settings
  simp only [assign_ofSettings, checkedOr]
  cases f with
  | zone =>
    have fails : Settings.checkZone value = .error fault := map_eq_error_iff.mp refused
    simp [Settings.value, fails, locale, pinnedNow, faultsOf]
  | locale =>
    have fails : Settings.checkLocale value = .error fault := map_eq_error_iff.mp refused
    simp [Settings.value, fails, zone, pinnedNow, faultsOf]
  | pinnedNow =>
    have fails : Settings.checkPinnedNow now value = .error fault := map_eq_error_iff.mp refused
    simp [Settings.value, fails, zone, locale, faultsOf]

end Draft

/-- A failure that is told on the stream of errors. -/
def Outcome.Reported (o : Outcome) : Prop :=
  ∃ errors, errors ≠ "" ∧ o = .exited 1 "" errors

theorem Outcome.reported_ofStoreFault (path : String) {fault : FileFault}
    (short : ∀ digits, fault ≠ .longNumeral digits) :
    (Outcome.ofStoreFault path (.unreadable fault)).Reported := by
  cases fault with
  | longNumeral digits => exact absurd rfl (short digits)
  | _ => exact ⟨_, by simp [String.append_eq_empty_iff], rfl⟩

/-- The value of a setting has been set: the command ends well, and what is read from the file
afterwards, whenever it is accepted, is what was read before with the value in its place. -/
def ValueSet (key value : String) (file left : SettingsFile) (now : Instant) (outcome : Outcome) :
    Prop :=
  ∃ f base stored, key.toList = Setting.path f ∧ f.Accepts now (.string value)
    ∧ file.settings now = .ok base ∧ outcome = .printed ("Updated " ++ key)
    ∧ left.settings now = .ok stored
    ∧ (∀ later, stored.Accepted later → left.settings later = .ok stored)
    ∧ ∀ g, stored.value g = if g = f then f.kept (.string value) else base.value g

/-- A value has been refused: the command reports a failure, and the file is as it was. -/
def ValueRefused (file left : SettingsFile) (outcome : Outcome) : Prop :=
  left = file ∧ outcome.Reported

/-- The ways in which setting a value ends, each with what leads there. -/
inductive SetEnding (key value : String) (file left : SettingsFile) (now : Instant)
    (outcome : Outcome) : Prop
  | set (done : ValueSet key value file left now outcome)
  | refused (told : ValueRefused file left outcome)
      (short : ∀ digits, file.settings now ≠ .error (.longNumeral digits))
      (why : ∀ base, file.settings now = .ok base → key.toList = sectionKey.toList
        ∨ ∃ f, key.toList = Setting.path f ∧ ¬ f.Accepts now (.string value))
  | brokenOff {cause : Breakdown} (kept : left = file) (told : outcome = .brokenOff cause)
      (why : (∃ digits, file.settings now = .error (.longNumeral digits))
        ∨ ∃ base f rest, file.settings now = .ok base
          ∧ key.toList = Setting.path f ++ '.' :: rest)
  | nothingSet {base : Settings} (read : file.settings now = .ok base)
      (target : key.toList ≠ sectionKey.toList ∧ ∀ f, key.toList ≠ Setting.path f
        ∧ ∀ rest, key.toList ≠ Setting.path f ++ '.' :: rest)
      (told : outcome = .printed ("Updated " ++ key)) (again : left.settings now = .ok base)

section

variable {file : SettingsFile} {around : Surroundings} {key value : String} {base : Settings}

theorem assignValue_unread {fault : FileFault} (unread : file.settings around.now = .error fault) :
    assignValue file around key value = (file, .ofStoreFault around.path (.unreadable fault)) := by
  unfold assignValue
  rw [unread]

theorem assignValue_section (read : file.settings around.now = .ok base)
    (target : key.toList = sectionKey.toList) :
    ∃ outcome, assignValue file around key value = (file, outcome) ∧ outcome.Reported := by
  unfold assignValue
  rw [read, target, KeyTarget.ofPath_section]
  exact ⟨_, rfl, _, by simp [String.append_eq_empty_iff], rfl⟩

theorem assignValue_below (read : file.settings around.now = .ok base) {f : Setting}
    {rest : List Char} (target : key.toList = f.path ++ '.' :: rest) :
    ∃ cause, assignValue file around key value = (file, .brokenOff cause) := by
  unfold assignValue
  rw [read, target, KeyTarget.ofPath_below]
  exact ⟨_, rfl⟩

theorem assignValue_elsewhere (read : file.settings around.now = .ok base)
    (target : KeyTarget.ofPath key.toList = .elsewhere) :
    assignValue file around key value = (some base.fileText, .printed ("Updated " ++ key)) := by
  have again := Draft.settings_ofSettings.mpr (SettingsFile.accepted_of_settings read)
  unfold assignValue
  rw [read, target]
  dsimp only
  rw [again]

/-- An accepted value takes the place of the one before it, and the rest is saved as it was read. -/
theorem assignValue_accepted (read : file.settings around.now = .ok base) {f : Setting}
    (target : key.toList = f.path) (accepts : f.Accepts around.now (.string value)) :
    ∃ s : Settings,
      assignValue file around key value = (some s.fileText, .printed ("Updated " ++ key))
      ∧ s.Accepted around.now ∧ s.Whole
      ∧ ∀ g, s.value g = if g = f then f.kept (.string value) else base.value g := by
  have before := SettingsFile.accepted_of_settings read
  obtain ⟨s, made⟩ := (Draft.exists_settings_assign_iff before).mpr accepts
  have whole := Draft.whole_of_assign before (SettingsFile.whole_of_settings read)
    (Json.whole_ofString value) made
  refine ⟨s, ?_, (Draft.accepted_of_settings made).1, whole, Draft.value_of_assign before made⟩
  unfold assignValue
  rw [read, target, KeyTarget.ofPath_path]
  dsimp only
  rw [made]

/-- A value that is not accepted is refused in the same words whatever the file holds. -/
theorem assignValue_refused {f : Setting} (target : key.toList = f.path)
    (refuses : ¬ f.Accepts around.now (.string value)) :
    ∃ outcome : Outcome, outcome.Reported ∧ ∀ (file : SettingsFile) (base : Settings),
      file.settings around.now = .ok base → assignValue file around key value = (file, outcome) := by
  refine ⟨.exited 1 "" ("❌ Invalid value for " ++ key ++ ": " ++ String.ofList (decimal 1)
    ++ " validation error" ++ " for Settings\n"), ⟨_, by simp [String.append_eq_empty_iff], rfl⟩,
    fun file base read => ?_⟩
  cases checked : f.check around.now (.string value) with
  | ok accepted => exact absurd ⟨accepted, checked⟩ refuses
  | error fault =>
    have faults := Draft.settings_assign_of_error (SettingsFile.accepted_of_settings read) checked
    unfold assignValue
    rw [read, target, KeyTarget.ofPath_path]
    dsimp only
    rw [faults]
    rfl

theorem assignValue_setting (read : file.settings around.now = .ok base) {f : Setting}
    (target : key.toList = f.path) :
    ∃ left outcome, assignValue file around key value = (left, outcome)
      ∧ (f.Accepts around.now (.string value) → ValueSet key value file left around.now outcome)
      ∧ (¬ f.Accepts around.now (.string value) → ValueRefused file left outcome) := by
  by_cases accepts : f.Accepts around.now (.string value)
  · obtain ⟨s, ran, after, whole, values⟩ := assignValue_accepted read target accepts
    exact ⟨_, _, ran, fun _ => ⟨f, base, s, target, accepts, read, rfl, after.reloaded whole,
      fun later still => still.reloaded whole, values⟩, fun refused => absurd accepts refused⟩
  · obtain ⟨outcome, reported, ran⟩ := assignValue_refused target accepts
    exact ⟨_, _, ran file base read, fun accepted => absurd accepted accepts,
      fun _ => ⟨rfl, reported⟩⟩

end

theorem Outcome.not_reported_printed (text : String) : ¬ (Outcome.printed text).Reported := by
  rintro ⟨errors, -, same⟩
  cases same

theorem Outcome.not_reported_brokenOff (cause : Breakdown) :
    ¬ (Outcome.brokenOff cause).Reported := by
  rintro ⟨errors, -, same⟩
  cases same

/-- Setting a value replaces a setting, is refused with a report, breaks off, or sets nothing. -/
theorem assignValue_ends (key value : String) (file : SettingsFile) (around : Surroundings) :
    ∃ left outcome, assignValue file around key value = (left, outcome)
      ∧ SetEnding key value file left around.now outcome := by
  cases read : file.settings around.now with
  | error fault =>
    refine ⟨_, _, assignValue_unread read, ?_⟩
    by_cases long : ∃ digits, fault = .longNumeral digits
    · obtain ⟨digits, rfl⟩ := long
      exact .brokenOff rfl rfl (.inl ⟨digits, read⟩)
    · have short (digits : Nat) : fault ≠ .longNumeral digits := fun same => long ⟨digits, same⟩
      refine .refused ⟨rfl, Outcome.reported_ofStoreFault _ short⟩ (fun digits same => ?_)
        fun base same => ?_
      · rw [read] at same
        exact short digits (Except.error.inj same)
      · rw [read] at same
        cases same
  | ok base =>
    have loaded (digits : Nat) : file.settings around.now ≠ .error (.longNumeral digits) := by
      rw [read]
      exact nofun
    rcases KeyTarget.ofPath_cases key.toList with target | ⟨f, target⟩ | ⟨f, rest, target⟩ | target
    · obtain ⟨outcome, ran, reported⟩ :
          ∃ outcome, assignValue file around key value = (file, outcome) ∧ outcome.Reported :=
        assignValue_section read target
      exact ⟨_, _, ran, .refused ⟨rfl, reported⟩ loaded fun _ _ => .inl target⟩
    · obtain ⟨left, outcome, ran, set, refused⟩ := assignValue_setting read target
      refine ⟨_, _, ran, ?_⟩
      by_cases accepts : f.Accepts around.now (.string value)
      · exact .set (set accepts)
      · exact .refused (refused accepts) loaded fun _ _ => .inr ⟨f, target, accepts⟩
    · obtain ⟨cause, ran⟩ : ∃ cause, assignValue file around key value = (file, .brokenOff cause) :=
        assignValue_below read target
      exact ⟨_, _, ran, .brokenOff rfl rfl (.inr ⟨base, f, rest, read, target⟩)⟩
    · have before := SettingsFile.accepted_of_settings read
      have others := KeyTarget.ofPath_eq_elsewhere_iff.mp target
      have again := before.reloaded (SettingsFile.whole_of_settings read)
      exact ⟨_, _, assignValue_elsewhere read target, .nothingSet read others rfl again⟩

namespace SetEnding

variable {key value : String} {file left : SettingsFile} {now : Instant} {outcome : Outcome}

theorem setOrRefused_iff (h : SetEnding key value file left now outcome) :
    ValueSet key value file left now outcome ∨ ValueRefused file left outcome
      ↔ (∀ digits, file.settings now ≠ .error (.longNumeral digits))
        ∧ ∀ base, file.settings now = .ok base →
          key.toList = sectionKey.toList ∨ ∃ f, key.toList = Setting.path f := by
  cases h with
  | set done =>
    obtain ⟨f, base, stored, target, -, read, -⟩ := id done
    refine ⟨fun _ => ⟨?_, fun _ _ => .inr ⟨f, target⟩⟩, fun _ => .inl done⟩
    rw [read]
    exact nofun
  | refused told short why =>
    refine ⟨fun _ => ⟨short, fun base read => ?_⟩, fun _ => .inr told⟩
    exact (why base read).imp_right fun ⟨f, target, _⟩ => ⟨f, target⟩
  | brokenOff kept told why =>
    subst told
    constructor
    · rintro (⟨f, base, stored, -, -, -, ended, -⟩ | ⟨-, reported⟩)
      · cases ended
      · exact absurd reported (Outcome.not_reported_brokenOff _)
    · rintro ⟨short, named⟩
      rcases why with ⟨digits, long⟩ | ⟨base, f, rest, read, target⟩
      · exact absurd long (short digits)
      · rcases named base read with named | ⟨g, named⟩
        · exact absurd (named.symm.trans target).symm (Setting.below_ne_section f rest)
        · exact absurd (named.symm.trans target) (Setting.path_ne_below g f rest)
  | nothingSet read target told again =>
    subst told
    constructor
    · rintro (⟨f, base, stored, named, -⟩ | ⟨-, reported⟩)
      · exact absurd named (target.2 f).1
      · exact absurd reported (Outcome.not_reported_printed _)
    · rintro ⟨-, named⟩
      rcases named _ read with named | ⟨f, named⟩
      · exact absurd named target.1
      · exact absurd named (target.2 f).1

theorem set_iff (h : SetEnding key value file left now outcome) {f : Setting} {base : Settings}
    (named : key.toList = f.path) (read : file.settings now = .ok base) :
    ValueSet key value file left now outcome ↔ f.Accepts now (.string value) := by
  constructor
  · rintro ⟨g, -, -, target, accepts, -⟩
    rw [Setting.path_injective (named.symm.trans target)]
    exact accepts
  · intro accepts
    cases h with
    | set done => exact done
    | refused told short why =>
      rcases why base read with target | ⟨g, target, refused⟩
      · exact absurd (named.symm.trans target) (Setting.path_ne_section f)
      · rw [← Setting.path_injective (named.symm.trans target)] at refused
        exact absurd accepts refused
    | brokenOff kept told why =>
      rcases why with ⟨digits, long⟩ | ⟨_, g, rest, -, target⟩
      · rw [read] at long
        cases long
      · exact absurd (named.symm.trans target) (Setting.path_ne_below f g rest)
    | nothingSet _ target told again => exact absurd named (target.2 f).1

end SetEnding

/-- Setting a value ends in one of two ways, a setting replaced or a reported failure and the file
as it was, just where no number in the file is too long and the key names the section or a setting.
A key that goes on below a setting breaks the command off, and with any other key it ends well but
sets nothing. -/
theorem Command.configSet_ends (key value : String) (file : SettingsFile) (around : Surroundings) :
    ∃ left outcome, (configSet key value).run file around = (left, outcome)
      ∧ SetEnding key value file left around.now outcome
      ∧ ¬ (ValueSet key value file left around.now outcome ∧ ValueRefused file left outcome)
      ∧ (ValueSet key value file left around.now outcome ∨ ValueRefused file left outcome
        ↔ (∀ digits, file.settings around.now ≠ .error (.longNumeral digits))
          ∧ ∀ base, file.settings around.now = .ok base →
            key.toList = sectionKey.toList ∨ ∃ f, key.toList = Setting.path f)
      ∧ ∀ f base, key.toList = Setting.path f → file.settings around.now = .ok base →
        (ValueSet key value file left around.now outcome
          ↔ f.Accepts around.now (.string value)) := by
  obtain ⟨left, outcome, ran, ends⟩ := assignValue_ends key value file around
  refine ⟨left, outcome, ran, ends, ?_, ends.setOrRefused_iff, fun f base => ends.set_iff⟩
  rintro ⟨⟨_, _, _, _, _, _, printed, _⟩, _, reported⟩
  rw [printed] at reported
  exact Outcome.not_reported_printed _ reported

/-- A key below a setting breaks the command off, and with a misspelt one it ends well although
there is nothing that it could have set. -/
theorem Command.configSet_other_keys :
    (configSet "datemath.locale.x" "fi").run none ⟨"settings.json", fun _ => none, ⟨0⟩⟩
      = (none, .brokenOff .textHasNoMember)
    ∧ (configSet "datemath.locle" "fi").run none ⟨"settings.json", fun _ => none, ⟨0⟩⟩
      = (some Settings.default.fileText, .printed "Updated datemath.locle")
    ∧ ¬ ∃ f, "datemath.locle".toList = Setting.path f := by
  refine ⟨rfl, rfl, ?_⟩
  rintro ⟨f, named⟩
  cases f <;> exact absurd named (by decide)

end Almanac
