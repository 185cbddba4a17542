import Almanac.Json.Printer
import Almanac.Json.Reader
import Almanac.Settings.Basic

namespace Almanac

/-- Why the text of a settings file has no settings. -/
inductive FileFault
  | longNumeral (digits : Nat)
  | malformed
  | noObject
  | noSection
  | invalid (faults : SettingFaults)
deriving DecidableEq

/-- The member of the file under which the settings stand. -/
def sectionKey : String := "datemath"

namespace Settings

def json (s : Settings) : Json :=
  .object [(sectionKey, .object
    [(Setting.zone.key, .string s.zone),
     (Setting.locale.key, .string s.locale),
     (Setting.pinnedNow.key, (s.pinnedNow.map Json.string).getD .null)])]

/-- The text of the file that holds settings. -/
def fileText (s : Settings) : List Char :=
  s.json.indented 0

/-- The settings that the value of a file describes. Members of other names do not matter. -/
def ofJson (value : Json) (now : Instant) : Except FileFault Settings :=
  match value with
  | .object members =>
    match member? sectionKey members with
    | none => .ok default
    | some (.object settings) =>
      match (Draft.ofMembers settings).settings now with
      | .ok s => .ok s
      | .error faults => .error (.invalid faults)
    | some _ => .error .noSection
  | _ => .error .noObject

def ofFileText (text : List Char) (now : Instant) : Except FileFault Settings :=
  match Json.read text with
  | .ok value => ofJson value now
  | .error .malformed => .error .malformed
  | .error (.longNumeral digits) => .error (.longNumeral digits)

end Settings

end Almanac
