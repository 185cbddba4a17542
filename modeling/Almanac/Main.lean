import Almanac.Command.Arguments
import Std.Time.DateTime.Timestamp

namespace Almanac

/-- The settings file of the user, which is used unless another one is named. -/
def userSettingsPath : IO String := do
  return ((← IO.getEnv "HOME").getD ".") ++ "/.datemath/config.json"

def readSettingsFile (path : String) : IO SettingsFile := do
  try
    return some (← IO.FS.readFile path).toList
  catch _ => return none

/-- Writes the settings file, in directories that are made if they are missing. -/
def writeSettingsFile (path : String) (text : List Char) : IO Unit := do
  let parents := String.intercalate "/" ((path.splitOn "/").dropLast)
  if parents ≠ "" then IO.FS.createDirAll parents
  IO.FS.writeFile path (String.ofList text)

def readEnvironment : IO Environment := do
  let zone ← IO.getEnv Setting.zone.environmentName
  let locale ← IO.getEnv Setting.locale.environmentName
  let pinnedNow ← IO.getEnv Setting.pinnedNow.environmentName
  return fun
    | .zone => zone
    | .locale => locale
    | .pinnedNow => pinnedNow

def readClock : IO Instant := do
  return ⟨(← Std.Time.Timestamp.now).toMillisecondsSinceUnixEpoch.val⟩

/-- Prints a text, with its control sequences only to a terminal. -/
def printTo (stream : IO.FS.Stream) (text : String) : IO Unit := do
  stream.putStr (if ← stream.isTty then text else plainText text)

def printOutcome : Outcome → IO Unit
  | .exited _ output errors => do
    printTo (← IO.getStdout) output
    printTo (← IO.getStderr) errors
  | .brokenOff cause =>
    IO.eprintln (match cause with
      | .longNumber => "A number has too many digits."
      | .textHasNoMember => "A text has no members to set."
      | .textHasNoSection => "A text has no members to go into.")

def runInvocation (invocation : Invocation) : IO UInt32 := do
  let path ← match invocation.path? with
    | some path => pure path
    | none => userSettingsPath
  let file ← readSettingsFile path
  let around : Surroundings := ⟨path, ← readEnvironment, ← readClock⟩
  let (left, outcome) := invocation.command.run file around
  if left ≠ file then
    match left with
    | some text => writeSettingsFile path text
    | none => pure ()
  printOutcome outcome
  return outcome.exitCode.toUInt32

end Almanac

def main (arguments : List String) : IO UInt32 :=
  match Almanac.Invocation.ofArguments? arguments with
  | some invocation => Almanac.runInvocation invocation
  | none => do
    IO.eprintln "Commands: parse, validate, render, constants, config init, config show, config set"
    return 2
