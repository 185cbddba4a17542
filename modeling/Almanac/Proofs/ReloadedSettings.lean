import Almanac.Proofs.AcceptedSettings
import Almanac.Proofs.JsonReading
import Almanac.Proofs.LoneSurrogates
import Almanac.Proofs.WholeValues

namespace Almanac

namespace Json

/-- A value whose text, if it is one, is read back from its code units. -/
def joined : Json → Json
  | string value => string value.joined
  | value => value

theorem Whole.joined_eq {v : Json} (h : v.Whole) : v.joined = v := by
  cases h with
  | string whole => exact congrArg Json.string (Text.joined_eq_self_iff.mpr whole)
  | _ => rfl

theorem whole_ofString (s : String) : (string s).Whole :=
  .string (Text.whole_ofChars s.toList)

end Json

theorem whole_textOrNull {text? : Option Text} :
    (textOrNull text?).Whole ↔ ∀ text, text? = some text → text.Whole := by
  cases text? with
  | none => exact ⟨fun _ => nofun, fun _ => .null⟩
  | some text =>
    constructor
    · rintro (_ | _ | _ | _ | whole) _ same
      cases same
      exact whole
    · exact fun whole => .string (whole text rfl)

/-- What is kept of a whole value is whole. -/
theorem Setting.whole_kept (f : Setting) {value : Json} (h : value.Whole) : (f.kept value).Whole := by
  unfold kept
  split
  · split
    · exact .null
    · exact h
  · exact h

namespace Settings

variable {s : Settings} {now : Instant}

/-- Settings all of whose texts are whole. -/
def Whole (s : Settings) : Prop :=
  ∀ f, (s.value f).Whole

theorem whole_iff : s.Whole ↔ s.zone.Whole ∧ s.locale.Whole
    ∧ ∀ text, s.pinnedNow = some text → text.Whole := by
  have text {t : Text} : (Json.string t).Whole ↔ t.Whole :=
    ⟨fun | .string whole => whole, .string⟩
  rw [Whole, Setting.forall_iff]
  exact and_congr text (and_congr text whole_textOrNull)

theorem whole_default : default.Whole :=
  whole_iff.mpr ⟨Text.whole_ofChars _, Text.whole_ofChars _, nofun⟩

/-- Settings as they are read back from their file: in their texts, surrogates that make a pair are
one character. -/
def joined (s : Settings) : Settings :=
  ⟨s.zone.joined, s.locale.joined, s.pinnedNow.map Text.joined⟩

theorem value_joined (s : Settings) (f : Setting) : s.joined.value f = (s.value f).joined := by
  cases f with
  | zone => rfl
  | locale => rfl
  | pinnedNow =>
    change textOrNull (s.pinnedNow.map Text.joined) = (textOrNull s.pinnedNow).joined
    cases s.pinnedNow <;> rfl

theorem whole_joined (s : Settings) : s.joined.Whole := by
  rw [whole_iff]
  refine ⟨s.zone.whole_joined, s.locale.whole_joined, fun text same => ?_⟩
  obtain ⟨given, -, rfl⟩ := Option.map_eq_some_iff.mp same
  exact given.whole_joined

theorem Whole.joined_eq (h : s.Whole) : s.joined = s := by
  refine ext_value fun f => ?_
  rw [value_joined, (h f).joined_eq]

/-- A file holds the code units of texts only. -/
theorem fileText_joined (s : Settings) : s.joined.fileText = s.fileText := by
  have text (t : Text) : jsonString t.joined = jsonString t := by
    rw [jsonString, jsonString, Text.units_joined]
  obtain ⟨zone, locale, pinnedNow?⟩ := s
  unfold fileText json joined
  cases pinnedNow? <;>
    simp [Json.indented, Json.membersIndented, Json.line, text]

/-- The members of the section under which settings stand in their file. -/
def members (s : Settings) : List (String × Json) :=
  Setting.all.map fun f => (f.key, s.value f)

theorem Whole.readsBack_value (h : s.Whole) (f : Setting) : (s.value f).ReadsBack 1 := by
  obtain ⟨zone, locale, pinnedNow⟩ := whole_iff.mp h
  cases f with
  | zone => exact Json.readsBack_string zone
  | locale => exact Json.readsBack_string locale
  | pinnedNow =>
    change (textOrNull s.pinnedNow).ReadsBack 1
    cases given : s.pinnedNow with
    | none => exact Json.readsBack_null
    | some text => exact Json.readsBack_string (pinnedNow text given)

theorem Whole.read_fileText (h : s.Whole) : Json.read s.fileText = .ok s.json := by
  have section_ : (Json.object s.members).ReadsBack (1 + s.members.length + 1) := by
    refine Json.readsBack_object (List.cons_ne_nil _ _) fun member mem => ?_
    obtain ⟨f, -, rfl⟩ := List.mem_map.mp mem
    exact h.readsBack_value f
  have whole : s.json.ReadsBack (1 + s.members.length + 1 + 1 + 1) := by
    refine Json.readsBack_object (List.cons_ne_nil _ _) fun member mem => ?_
    cases List.mem_singleton.mp mem
    exact section_
  obtain ⟨tail, text⟩ : ∃ tail, s.json.indented 0 = '{' :: '\n' :: ' ' :: tail := ⟨_, rfl⟩
  refine whole.read_indented ?_
  rw [text]
  simp only [members, List.length_map, List.length_cons, Setting.all, List.length_nil]
  omega

theorem read_fileText (s : Settings) : Json.read s.fileText = .ok s.joined.json := by
  rw [← fileText_joined]
  exact s.whole_joined.read_fileText

theorem ofMembers_members (s : Settings) : Draft.ofMembers s.members = Draft.ofSettings s := by
  funext f
  cases f <;> rfl

/-- A file of settings is read as the settings are checked that it was written for, once their
surrogates are joined. -/
theorem ofFileText_fileText (s : Settings) (now : Instant) :
    ofFileText s.fileText now = ((Draft.ofSettings s.joined).settings now).mapError .invalid := by
  have made (s : Settings) :
      ofJson s.json now = ((Draft.ofSettings s).settings now).mapError .invalid := by
    have section_ : member? sectionKey [(sectionKey, Json.object s.members)]
        = some (.object s.members) := rfl
    change ofJson (.object [(sectionKey, .object s.members)]) now = _
    unfold ofJson
    dsimp only
    rw [section_]
    dsimp only
    rw [ofMembers_members]
    cases (Draft.ofSettings s).settings now <;> rfl
  unfold ofFileText
  rw [read_fileText]
  exact made s.joined

namespace Accepted

/-- The zone and the present are whole in accepted settings: any text can only be a locale. -/
theorem joined_eq (h : s.Accepted now) : s.joined = { s with locale := s.locale.joined } := by
  obtain ⟨⟨zone, resolved⟩, -, named⟩ := accepted_iff.mp h
  have zone : s.zone.joined = s.zone :=
    Text.joined_eq_self_iff.mpr (Zone.whole_of_resolve resolved)
  have pinnedNow : s.pinnedNow.map Text.joined = s.pinnedNow := by
    cases given : s.pinnedNow with
    | none => rfl
    | some text =>
      obtain ⟨-, i, evaluated⟩ := named text given
      exact congrArg some (Text.joined_eq_self_iff.mpr (Text.whole_of_evaluate evaluated))
  rw [joined, zone, pinnedNow]

theorem joined_iff {later : Instant} (h : s.Accepted now) :
    s.joined.Accepted later ↔ s.Accepted later := by
  rw [h.joined_eq, accepted_iff, accepted_iff, Ne, Text.trim_chars_joined_eq_nil_iff]

/-- Accepted settings that are written to a file are read from it with their surrogates joined. -/
theorem reloaded_joined (h : s.Accepted now) :
    SettingsFile.settings (some s.fileText) now = .ok s.joined := by
  have joined := Draft.settings_ofSettings.mpr (h.joined_iff.mpr h)
  change ofFileText s.fileText now = .ok s.joined
  rw [ofFileText_fileText, joined]
  rfl

theorem reloaded (h : s.Accepted now) (whole : s.Whole) :
    SettingsFile.settings (some s.fileText) now = .ok s := by
  rw [h.reloaded_joined, whole.joined_eq]

end Accepted

end Settings

theorem Draft.whole_of_settings {d : Draft} {now : Instant} {s : Settings}
    (made : d.settings now = .ok s) (whole : ∀ f value, d f = some value → value.Whole) :
    s.Whole := by
  intro f
  rw [(accepted_of_settings made).2 f]
  apply f.whole_kept
  cases given : d f with
  | none => exact Settings.whole_default f
  | some value => exact whole f value given

namespace SettingsFile

variable {file : SettingsFile} {now : Instant} {s : Settings}

/-- Settings come from a file as the defaults or as what is made of some whole values in it, of which
the instant is no part. -/
theorem settings_cases (read : file.settings now = .ok s) :
    (s = .default ∧ ∀ later, file.settings later = .ok .default)
      ∨ ∃ d : Draft, d.settings now = .ok s ∧ (∀ f value, d f = some value → value.Whole)
        ∧ ∀ later t, d.settings later = .ok t → file.settings later = .ok t := by
  cases file with
  | none =>
    cases read
    exact .inl ⟨rfl, fun _ => rfl⟩
  | some text =>
    simp only [settings, Settings.ofFileText] at read ⊢
    cases parsed : Json.read text with
    | error fault =>
      rw [parsed] at read
      cases fault <;> cases read
    | ok value =>
      simp only [parsed] at read ⊢
      have whole := Json.whole_of_read parsed
      unfold Settings.ofJson at read ⊢
      split at read
      next members =>
        split at read
        next =>
          cases read
          exact .inl ⟨rfl, fun _ => rfl⟩
        next inner section_ =>
          split at read
          next made =>
            cases read
            cases whole with | object members_whole =>
            cases Json.whole_of_member? members_whole section_ with | object inner_whole =>
            refine .inr ⟨.ofMembers inner, made, fun f value => Json.whole_of_member? inner_whole,
              fun later t again => ?_⟩
            rw [again]
          · cases read
        · cases read
      · cases read

/-- What is read from a file, or the defaults without one, is accepted as it is. -/
theorem accepted_of_settings (read : file.settings now = .ok s) : s.Accepted now := by
  rcases settings_cases read with ⟨rfl, -⟩ | ⟨d, made, -⟩
  · exact Settings.accepted_default now
  · exact (Draft.accepted_of_settings made).1

theorem whole_of_settings (read : file.settings now = .ok s) : s.Whole := by
  rcases settings_cases read with ⟨rfl, -⟩ | ⟨d, made, whole, -⟩
  · exact Settings.whole_default
  · exact Draft.whole_of_settings made whole

theorem settings_later {later : Instant} (read : file.settings now = .ok s)
    (still : s.Accepted later) : file.settings later = .ok s := by
  rcases settings_cases read with ⟨rfl, always⟩ | ⟨d, made, -, again⟩
  · exact always later
  · exact again later s (Draft.settings_later made still)

end SettingsFile

end Almanac
