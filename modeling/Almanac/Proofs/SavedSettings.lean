import Almanac.Proofs.ExpressionReading
import Almanac.Proofs.SettingsSteps

namespace Almanac

namespace SettingsStep

variable {path : String} {now : Instant} {before : SettingsPlace} {s : Settings}

/-- Settings that come out of a draft are what is written, in place of all that the file held. -/
theorem run_save {d : Draft} (made : d.settings now = .ok s) :
    (save d).run path now before = ({ before with file := some s.fileText }, .done) := by
  unfold run
  dsimp only
  rw [made]

/-- A file that settings were written to gives them back with their surrogates joined, at every
instant at which they are accepted so, and at no other. -/
theorem run_load_fileText_iff (written : before.file = some s.fileText) :
    load.run path now before = (before, .settings s.joined) ↔ s.joined.Accepted now := by
  unfold run
  dsimp only
  rw [written]
  dsimp only
  rw [Settings.ofFileText_fileText, ← Draft.settings_ofSettings]
  cases (Draft.ofSettings s.joined).settings now with
  | error faults =>
    constructor <;> intro same <;> cases same
  | ok t =>
    change (before, StepResult.settings t) = (before, .settings s.joined) ↔ _
    simp

/-- Settings that are saved are loaded again, whatever the file held before, and saving what was
loaded changes nothing. They are loaded as they are if no high surrogate stands right before a low one
in the locale, and otherwise with the pairs joined there. Only if an expression for the present is not
accepted any more can it be otherwise at a later instant. -/
theorem load_saved {d : Draft} (made : d.settings now = .ok s) (path : String)
    (before : SettingsPlace) :
    ∃ after loaded, (save d).run path now before = (after, .done)
      ∧ after.file = some s.fileText ∧ after.env = before.env
      ∧ load.run path now after = (after, .settings loaded)
      ∧ loaded = { s with locale := s.locale.joined }
      ∧ (loaded = s ↔ s.locale.Whole)
      ∧ (save (.ofSettings loaded)).run path now after = (after, .done)
      ∧ ∀ later, load.run path later after = (after, .settings loaded) ↔ s.Accepted later := by
  have accepted : s.Accepted now := (Draft.accepted_of_settings made).1
  have joined : s.joined.Accepted now := accepted.joined_iff.mpr accepted
  have again (later : Instant) := @run_load_fileText_iff path later
    { before with file := some s.fileText } s rfl
  have kept := @run_save path now { before with file := some s.fileText } s.joined _
    (Draft.settings_ofSettings.mpr joined)
  rw [s.fileText_joined] at kept
  refine ⟨_, s.joined, run_save made, rfl, rfl, (again now).mpr joined, accepted.joined_eq, ?_, kept,
    fun later => (again later).trans accepted.joined_iff⟩
  rw [accepted.joined_eq, ← Text.joined_eq_self_iff]
  exact ⟨congrArg Settings.locale, fun same => by rw [same]⟩

/-- The locale is a control character, a quotation mark, a backslash, a letter that is not in ASCII, a
character beyond sixteen bits and a surrogate without its partner. -/
theorem load_saved_escapes :
    ∃ s : Settings,
      s = ⟨" EST ", .ofUnits [0x01, 0x22, 0x5C, 0xE9, 0xD83D, 0xDE00, 0xD83D], some " 2014\n"⟩
        ∧ (Draft.ofSettings s).settings ⟨0⟩ = .ok s
        ∧ ∃ after,
          (save (.ofSettings s)).run "settings.json" ⟨0⟩ ⟨some "[]".toList, fun _ => none⟩
              = (after, .done)
            ∧ load.run "settings.json" ⟨0⟩ after = (after, .settings s) := by
  have literal : Literal.read? ((trimSymbols (Text.ofString " 2014\n").symbols).map Symbol.reading)
      = some (.dateTime ⟨⟨2014, 1, 1⟩, .midnight⟩) := by decide +kernel
  have named : evaluate (some " 2014\n") .utc ⟨0⟩ = .ok ⟨1388534400000⟩ := by
    rw [evaluate_literal (by decide) literal]
    rfl
  obtain ⟨s, given⟩ : ∃ s : Settings, s
      = ⟨" EST ", .ofUnits [0x01, 0x22, 0x5C, 0xE9, 0xD83D, 0xDE00, 0xD83D], some " 2014\n"⟩ :=
    ⟨_, rfl⟩
  have made : (Draft.ofSettings s).settings ⟨0⟩ = .ok s := by
    rw [Draft.settings_ofSettings, given, Settings.accepted_iff]
    refine ⟨⟨_, rfl⟩, by decide, fun text same => ?_⟩
    cases same
    exact ⟨by decide, _, named⟩
  have whole : s.locale.Whole := by
    rw [given]
    exact Text.whole_ofUnits _
  obtain ⟨after, loaded, saved, -, -, read, -, same, -⟩ := load_saved made "settings.json"
    ⟨some "[]".toList, fun _ => none⟩
  rw [same.mpr whole] at read
  exact ⟨s, given, made, after, saved, read⟩

/-- The two surrogates of a smiling face are loaded again as the face. -/
theorem load_saved_pair :
    ∃ (s loaded : Settings) (after : SettingsPlace),
      s = ⟨"UTC", ⟨[.surrogate ⟨0xD83D, rfl⟩, .surrogate ⟨0xDE00, rfl⟩]⟩, none⟩
        ∧ loaded = ⟨"UTC", ⟨[.char (Char.ofNat 0x1F600)]⟩, none⟩
        ∧ (save (.ofSettings s)).run "settings.json" ⟨0⟩ ⟨none, fun _ => none⟩ = (after, .done)
        ∧ load.run "settings.json" ⟨0⟩ after = (after, .settings loaded)
        ∧ loaded ≠ s := by
  obtain ⟨s, given⟩ : ∃ s : Settings,
      s = ⟨"UTC", ⟨[.surrogate ⟨0xD83D, rfl⟩, .surrogate ⟨0xDE00, rfl⟩]⟩, none⟩ := ⟨_, rfl⟩
  have accepted : s.Accepted ⟨0⟩ := by
    rw [given, Settings.accepted_iff]
    exact ⟨⟨_, rfl⟩, by decide, nofun⟩
  have joined : s.joined = ⟨"UTC", ⟨[.char (Char.ofNat 0x1F600)]⟩, none⟩ := by
    rw [given]
    decide
  refine ⟨s, s.joined, _, given, joined, run_save (Draft.settings_ofSettings.mpr accepted),
    (run_load_fileText_iff rfl).mpr (accepted.joined_iff.mpr accepted), ?_⟩
  rw [joined, given]
  decide

end SettingsStep

end Almanac
