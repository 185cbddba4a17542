import Almanac.Settings.File

namespace Almanac

/-- A text divided at each of its marks. -/
def pieces (mark : Char) : List Char → List (List Char)
  | [] => [[]]
  | c :: rest =>
    match pieces mark rest with
    | [] => [[c]]
    | first :: others => if c = mark then [] :: first :: others else (c :: first) :: others

/-- What a path of keys leads to in a file of settings. -/
inductive KeyTarget
  | wholeSection
  | setting (s : Setting)
  | belowSetting (s : Setting) (levels : Nat)
  | elsewhere
deriving DecidableEq

/-- The target of a path whose keys are divided by points. -/
def KeyTarget.ofPath (path : List Char) : KeyTarget :=
  match (pieces '.' path).map String.ofList with
  | [] => elsewhere
  | outer :: inner =>
    if outer ≠ sectionKey then elsewhere
    else
      match inner with
      | [] => wholeSection
      | key :: below =>
        match Setting.ofKey? key with
        | none => elsewhere
        | some s => if below.isEmpty then setting s else belowSetting s below.length

end Almanac
