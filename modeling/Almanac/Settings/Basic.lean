import Almanac.Expression.Basic
import Almanac.Json.Basic
import Almanac.Zone.Id

namespace Almanac

/-- What expressions are evaluated with when nothing else is asked for. -/
structure Settings where
  zone : Text
  locale : Text
  pinnedNow : Option Text
deriving DecidableEq

inductive Setting
  | zone | locale | pinnedNow
deriving DecidableEq

namespace Setting

def all : List Setting :=
  [zone, locale, pinnedNow]

def key : Setting → String
  | zone => "default_zone"
  | locale => "locale"
  | pinnedNow => "pinned_now"

def ofKey? (key : String) : Option Setting :=
  all.find? (·.key = key)

/-- The environment variable that overrides a setting. -/
def environmentName : Setting → String
  | zone => "DATEMATH_ZONE"
  | locale => "DATEMATH_LOCALE"
  | pinnedNow => "DATEMATH_NOW"

end Setting

/-- Values for settings that are not checked yet. One that is absent takes its default. -/
abbrev Draft := Setting → Option Json

/-- The values that the environment gives for settings. -/
abbrev Environment := Setting → Option String

/-- Why a value is not accepted for a setting. -/
inductive ValueFault
  | notText
  | refused (reason : String)
deriving DecidableEq

/-- The settings that are not accepted, each with its fault. -/
abbrev SettingFaults := List (Setting × ValueFault)

namespace Draft

def ofMembers (members : List (String × Json)) : Draft :=
  fun s => member? s.key members

def ofSettings (s : Settings) : Draft
  | .zone => some (.string s.zone)
  | .locale => some (.string s.locale)
  | .pinnedNow => some ((s.pinnedNow.map Json.string).getD .null)

def ofEnvironment (env : Environment) : Draft :=
  fun s => (env s).map fun value => .string value

/-- The values of one draft where it has any, and of another elsewhere. -/
def overriding (upper lower : Draft) : Draft :=
  fun s => (upper s).or (lower s)

def assign (d : Draft) (s : Setting) (value : Json) : Draft :=
  fun t => if t = s then some value else d t

end Draft

namespace Settings

def default : Settings := ⟨"UTC", "en", none⟩

/-- A zone has to have an id that is resolved. -/
def checkZone : Json → Except ValueFault Text
  | .string id =>
    match Zone.resolve id with
    | .ok _ => .ok id
    | .error failure => .error (.refused (failure.message))
  | _ => .error .notText

/-- Any text but a blank one is a locale. -/
def checkLocale : Json → Except ValueFault Text
  | .string locale =>
    if trim locale.chars = [] then .error (.refused "locale must not be empty")
    else .ok locale
  | _ => .error .notText

/-- The present is pinned to what an expression names in UTC, or not at all if it is blank. -/
def checkPinnedNow (now : Instant) : Json → Except ValueFault (Option Text)
  | .null => .ok none
  | .string text =>
    if trim text.chars = [] then .ok none
    else
      match evaluate (some text) .utc now with
      | .ok _ => .ok (some text)
      | .error failure =>
        .error (.refused (if failure.category?.isSome then
          "pinned_now is not a valid expression: " ++ failure.message else failure.message))
  | _ => .error .notText

end Settings

/-- What a check makes of the value of a draft. Defaults are not checked. -/
def checkedOr {α : Type} (default : α) (check : Json → Except ValueFault α) :
    Option Json → Except ValueFault α
  | none => .ok default
  | some value => check value

/-- The faults that a check finds for a setting. -/
def faultsOf {α : Type} (s : Setting) : Except ValueFault α → SettingFaults
  | .ok _ => []
  | .error fault => [(s, fault)]

/-- The settings of a draft, or all its faults in the order of the settings. -/
def Draft.settings (d : Draft) (now : Instant) : Except SettingFaults Settings :=
  let zone := checkedOr Settings.default.zone Settings.checkZone (d .zone)
  let locale := checkedOr Settings.default.locale Settings.checkLocale (d .locale)
  let pinnedNow :=
    checkedOr Settings.default.pinnedNow (Settings.checkPinnedNow now) (d .pinnedNow)
  match zone, locale, pinnedNow with
  | .ok zone, .ok locale, .ok pinnedNow => .ok ⟨zone, locale, pinnedNow⟩
  | zone, locale, pinnedNow =>
    .error (faultsOf .zone zone ++ faultsOf .locale locale ++ faultsOf .pinnedNow pinnedNow)

/-- Where and when expressions are evaluated. -/
structure Context where
  zone : Zone
  pinnedNow : Option Instant
deriving DecidableEq

/-- The context that settings describe. A pinned present is one in their zone. -/
def Settings.context (s : Settings) (now : Instant) : Except Failure Context :=
  match Zone.resolve s.zone with
  | .error failure => .error failure
  | .ok zone =>
    match s.pinnedNow with
    | none => .ok ⟨zone, none⟩
    | some text =>
      match evaluate (some text) zone now with
      | .error failure => .error failure
      | .ok i => .ok ⟨zone, some i⟩

/-- The present of a context in which the clock shows `now`. -/
def Context.now (c : Context) (now : Instant) : Instant :=
  c.pinnedNow.getD now

end Almanac
