import Almanac.Settings.File

namespace Almanac

/-- The settings file: its text, or none if there is no file. -/
abbrev SettingsFile := Option (List Char)

/-- Why no settings come out of a file, explicit values and the environment. -/
inductive StoreFault
  | unreadable (fault : FileFault)
  | refused (faults : SettingFaults)
deriving DecidableEq

/-- Settings that are not valid are of one kind. A number of too many digits is refused by its size,
and belongs to no kind. -/
def StoreFault.category? : StoreFault → Option Category
  | unreadable (.longNumeral _) => none
  | unreadable _ | refused _ => some .settings

namespace SettingsFile

/-- Settings from a file as it is, or the defaults without one. -/
def settings (file : SettingsFile) (now : Instant) : Except FileFault Settings :=
  match file with
  | none => .ok .default
  | some text => Settings.ofFileText text now

/-- Explicit values go before those of a file, and the environment goes before both. -/
def merged (base : Settings) (overrides : List (String × Json)) (env : Environment) : Draft :=
  (Draft.ofEnvironment env).overriding ((Draft.ofMembers overrides).overriding (.ofSettings base))

/-- Settings from the file, explicit values and the environment, with the file as it is left. If it
is to be kept up, a missing file is first made with the defaults, and explicit values are saved
along with all that they are merged with. -/
def bootstrap (file : SettingsFile) (overrides : List (String × Json)) (env : Environment)
    (persist : Bool) (now : Instant) : SettingsFile × Except StoreFault Settings :=
  match file.settings now with
  | .error fault => (file, .error (.unreadable fault))
  | .ok base =>
    let kept := if file.isNone && persist then some base.fileText else file
    match (merged base overrides env).settings now with
    | .error faults => (kept, .error (.refused faults))
    | .ok s => (if persist && !overrides.isEmpty then some s.fileText else kept, .ok s)

end SettingsFile

end Almanac
