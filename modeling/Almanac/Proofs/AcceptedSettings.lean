import Almanac.Settings.Store

namespace Almanac

/-- A text that may be missing, as it stands in a file. -/
def textOrNull (text? : Option Text) : Json :=
  (text?.map Json.string).getD .null

theorem textOrNull_injective {text? text?' : Option Text} (h : textOrNull text? = textOrNull text?') :
    text? = text?' := by
  cases text? <;> cases text?' <;> simp_all [textOrNull]

/-- The value of a setting as it stands in a file. -/
def Settings.value (s : Settings) : Setting → Json
  | .zone => .string s.zone
  | .locale => .string s.locale
  | .pinnedNow => textOrNull s.pinnedNow

/-- Settings are all that their values are. -/
theorem Settings.ext_value {s t : Settings} (h : ∀ f, s.value f = t.value f) : s = t := by
  obtain ⟨zone, locale, pinnedNow⟩ := s
  obtain ⟨zone', locale', pinnedNow'⟩ := t
  have zones : zone = zone' := Json.string.inj (h .zone)
  have locales : locale = locale' := Json.string.inj (h .locale)
  have presents : pinnedNow = pinnedNow' := textOrNull_injective (h .pinnedNow)
  rw [zones, locales, presents]

namespace Setting

theorem forall_iff {p : Setting → Prop} : (∀ f, p f) ↔ p zone ∧ p locale ∧ p pinnedNow := by
  constructor
  · intro h
    exact ⟨h zone, h locale, h pinnedNow⟩
  · rintro ⟨hz, hl, hp⟩ f
    cases f with
    | zone => exact hz
    | locale => exact hl
    | pinnedNow => exact hp

/-- What is kept of a value that is given for a setting, if it is accepted. -/
def check (f : Setting) (now : Instant) (value : Json) : Except ValueFault Json :=
  match f with
  | zone => (Settings.checkZone value).map .string
  | locale => (Settings.checkLocale value).map .string
  | pinnedNow => (Settings.checkPinnedNow now value).map textOrNull

/-- A value as it is kept for a setting: for a blank present none. -/
def kept : Setting → Json → Json
  | pinnedNow, .string text => if trim text.chars = [] then .null else .string text
  | _, value => value

variable {f : Setting} {now : Instant} {value accepted : Json}

/-- Of an accepted value no more is lost than that a present is blank, and what is kept of it is
accepted as it is. -/
theorem kept_of_check (h : f.check now value = .ok accepted) :
    accepted = f.kept value ∧ f.check now accepted = .ok accepted := by
  cases f with
  | zone =>
    cases value with
    | string id =>
      simp only [check, Settings.checkZone] at h ⊢
      cases found : Zone.resolve id with
      | error failure =>
        rw [found] at h
        cases h
      | ok zone =>
        rw [found] at h
        cases h
        refine ⟨rfl, ?_⟩
        dsimp only
        rw [found]
        rfl
    | _ => cases h
  | locale =>
    cases value with
    | string locale =>
      simp only [check, Settings.checkLocale] at h ⊢
      split at h
      · cases h
      next filled =>
        cases h
        refine ⟨rfl, ?_⟩
        dsimp only
        rw [if_neg filled]
        rfl
    | _ => cases h
  | pinnedNow =>
    cases value with
    | null =>
      cases h
      exact ⟨rfl, rfl⟩
    | string text =>
      simp only [check, Settings.checkPinnedNow] at h ⊢
      split at h
      next blank =>
        cases h
        exact ⟨(if_pos blank).symm, rfl⟩
      next filled =>
        cases named : evaluate (some text) .utc now with
        | error failure =>
          rw [named] at h
          cases h
        | ok i =>
          rw [named] at h
          cases h
          refine ⟨(if_neg filled).symm, ?_⟩
          simp only [textOrNull, Option.map_some, Option.getD_some]
          rw [if_neg filled, named]
          rfl
    | _ => cases h

/-- A value that was accepted is accepted whenever what is kept of it is. -/
theorem check_later {later : Instant} (made : f.check now value = .ok accepted)
    (still : f.check later accepted = .ok accepted) : f.check later value = .ok accepted := by
  cases f with
  | zone => exact made
  | locale => exact made
  | pinnedNow =>
    cases value with
    | string text =>
      obtain ⟨same, -⟩ := kept_of_check made
      by_cases blank : trim text.chars = []
      · simp only [check, Settings.checkPinnedNow, if_pos blank] at made ⊢
        exact made
      · rw [kept, if_neg blank] at same
        rw [same] at still ⊢
        exact still
    | _ => exact made

end Setting

/-- A value may be given for a setting if it is accepted, whatever the other settings are. -/
def Setting.Accepts (f : Setting) (now : Instant) (value : Json) : Prop :=
  ∃ accepted, f.check now value = .ok accepted

theorem checkedOr_map {α β : Type} (g : α → β) (a : α) (check : Json → Except ValueFault α)
    (value? : Option Json) :
    checkedOr (g a) (fun value => (check value).map g) value? = (checkedOr a check value?).map g := by
  cases value? <;> rfl

theorem map_eq_ok_iff {ε α β : Type} {g : α → β} (injective : ∀ {a a'}, g a = g a' → a = a')
    {result : Except ε α} {a : α} : result.map g = .ok (g a) ↔ result = .ok a := by
  cases result with
  | error e => simp [Except.map]
  | ok a' =>
    simp only [Except.map, Except.ok.injEq]
    exact ⟨injective, congrArg g⟩

theorem map_eq_error_iff {ε α β : Type} {g : α → β} {result : Except ε α} {e : ε} :
    result.map g = .error e ↔ result = .error e := by
  cases result <;> simp [Except.map]

theorem exists_checkedOr {α β : Type} (default : α) (g : α → β) {check : Json → Except ValueFault α}
    {value? : Option Json}
    (h : ∀ value, value? = some value → ∃ b, (check value).map g = .ok b) :
    ∃ a, checkedOr default check value? = .ok a := by
  cases value? with
  | none => exact ⟨default, rfl⟩
  | some value =>
    obtain ⟨b, made⟩ := h value rfl
    change ∃ a, check value = .ok a
    cases passed : check value with
    | error fault =>
      rw [passed] at made
      cases made
    | ok a => exact ⟨a, rfl⟩

/-- A draft makes settings just where each of its values is accepted, and absent values are the
defaults. -/
theorem Draft.settings_eq_ok_iff {d : Draft} {now : Instant} {s : Settings} :
    d.settings now = .ok s
      ↔ ∀ f, checkedOr (Settings.default.value f) (f.check now) (d f) = .ok (s.value f) := by
  have zone : checkedOr (Settings.default.value .zone) (Setting.zone.check now) (d .zone)
      = (checkedOr Settings.default.zone Settings.checkZone (d .zone)).map .string :=
    checkedOr_map Json.string _ _ _
  have locale : checkedOr (Settings.default.value .locale) (Setting.locale.check now) (d .locale)
      = (checkedOr Settings.default.locale Settings.checkLocale (d .locale)).map .string :=
    checkedOr_map Json.string _ _ _
  have pinnedNow :
      checkedOr (Settings.default.value .pinnedNow) (Setting.pinnedNow.check now) (d .pinnedNow)
        = (checkedOr Settings.default.pinnedNow (Settings.checkPinnedNow now) (d .pinnedNow)).map
          textOrNull :=
    checkedOr_map textOrNull _ _ _
  rw [Setting.forall_iff, zone, locale, pinnedNow]
  unfold settings Settings.value
  dsimp only
  rw [map_eq_ok_iff Json.string.inj, map_eq_ok_iff Json.string.inj,
    map_eq_ok_iff textOrNull_injective]
  cases checkedOr Settings.default.zone Settings.checkZone (d .zone) with
  | error fault => simp
  | ok zone =>
    cases checkedOr Settings.default.locale Settings.checkLocale (d .locale) with
    | error fault => simp
    | ok locale =>
      cases checkedOr Settings.default.pinnedNow (Settings.checkPinnedNow now) (d .pinnedNow) with
      | error fault => simp
      | ok text? =>
        obtain ⟨z, l, t⟩ := s
        simp

/-- Settings whose values are all accepted as they are. -/
def Settings.Accepted (s : Settings) (now : Instant) : Prop :=
  ∀ f : Setting, f.check now (s.value f) = .ok (s.value f)

/-- Settings are accepted if their zone is known, their locale is not blank and a pinned present
names an instant in UTC. -/
theorem Settings.accepted_iff {s : Settings} {now : Instant} :
    s.Accepted now ↔ (∃ zone, Zone.resolve s.zone = .ok zone) ∧ trim s.locale.chars ≠ []
      ∧ ∀ text, s.pinnedNow = some text →
        trim text.chars ≠ [] ∧ ∃ i, evaluate (some text) .utc now = .ok i := by
  have zone : Setting.zone.check now (s.value .zone) = .ok (s.value .zone)
      ↔ ∃ zone, Zone.resolve s.zone = .ok zone := by
    simp only [Setting.check, value, checkZone]
    cases Zone.resolve s.zone <;> simp [Except.map]
  have locale : Setting.locale.check now (s.value .locale) = .ok (s.value .locale)
      ↔ trim s.locale.chars ≠ [] := by
    simp only [Setting.check, value, checkLocale]
    by_cases blank : trim s.locale.chars = [] <;> simp [blank, Except.map]
  have pinned : Setting.pinnedNow.check now (s.value .pinnedNow) = .ok (s.value .pinnedNow)
      ↔ ∀ text, s.pinnedNow = some text →
        trim text.chars ≠ [] ∧ ∃ i, evaluate (some text) .utc now = .ok i := by
    simp only [Setting.check, value]
    cases s.pinnedNow with
    | none => simp [textOrNull, checkPinnedNow, Except.map]
    | some text =>
      simp only [textOrNull, checkPinnedNow, Option.map_some, Option.getD_some]
      by_cases blank : trim text.chars = []
      · simp [blank, textOrNull, Except.map]
      · cases named : evaluate (some text) .utc now <;>
          simp [blank, named, textOrNull, Except.map]
  unfold Accepted
  rw [Setting.forall_iff, zone, locale, pinned]

theorem Draft.settings_ofSettings {s : Settings} {now : Instant} :
    (Draft.ofSettings s).settings now = .ok s ↔ s.Accepted now := by
  rw [Draft.settings_eq_ok_iff]
  have given (f : Setting) : Draft.ofSettings s f = some (s.value f) := by
    cases f <;> rfl
  simp only [given]
  rfl

theorem Settings.accepted_default (now : Instant) : Settings.default.Accepted now := by
  intro f
  cases f with
  | zone => rfl
  | locale => rfl
  | pinnedNow => rfl

namespace Draft

variable {d : Draft} {now : Instant} {s : Settings}

/-- The settings that are made of a draft are accepted again, and hold what is kept of its values. -/
theorem accepted_of_settings (h : d.settings now = .ok s) :
    s.Accepted now ∧ ∀ f, s.value f = f.kept ((d f).getD (Settings.default.value f)) := by
  have each := settings_eq_ok_iff.mp h
  have both (f : Setting) : f.check now (s.value f) = .ok (s.value f)
      ∧ s.value f = f.kept ((d f).getD (Settings.default.value f)) := by
    have made := each f
    cases value : d f with
    | none =>
      rw [value] at made
      have same : s.value f = Settings.default.value f := (Except.ok.inj made).symm
      have default := Settings.accepted_default now f
      rw [same]
      exact ⟨default, (Setting.kept_of_check default).1⟩
    | some given =>
      rw [value] at made
      exact ⟨(Setting.kept_of_check made).2, (Setting.kept_of_check made).1⟩
  exact ⟨fun f => (both f).1, fun f => (both f).2⟩

theorem settings_later {later : Instant} (made : d.settings now = .ok s) (still : s.Accepted later) :
    d.settings later = .ok s := by
  rw [settings_eq_ok_iff] at made ⊢
  intro f
  cases value : d f with
  | none =>
    have default := made f
    rw [value] at default
    exact default
  | some given =>
    have checked := made f
    rw [value] at checked
    exact Setting.check_later checked (still f)

theorem exists_settings_iff :
    (∃ s, d.settings now = .ok s) ↔ ∀ f value, d f = some value → f.Accepts now value := by
  constructor
  · rintro ⟨s, h⟩ f value given
    have made := settings_eq_ok_iff.mp h f
    rw [given] at made
    exact ⟨_, made⟩
  · intro h
    obtain ⟨zone, hz⟩ := exists_checkedOr Settings.default.zone Json.string (h .zone)
    obtain ⟨locale, hl⟩ := exists_checkedOr Settings.default.locale Json.string (h .locale)
    obtain ⟨pinnedNow, hp⟩ := exists_checkedOr Settings.default.pinnedNow textOrNull (h .pinnedNow)
    unfold settings
    rw [hz, hl, hp]
    exact ⟨⟨zone, locale, pinnedNow⟩, rfl⟩

end Draft

end Almanac
