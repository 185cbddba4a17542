import Almanac.Advice
import Almanac.Command.Table
import Almanac.Settings.KeyPath
import Almanac.Settings.Store
import Almanac.Text.ControlSequence
import Almanac.Zone.Render

namespace Almanac

/-- How an instant is printed. -/
inductive OutputFormat
  | iso | withoutMillis | simple | millis
deriving DecidableEq

namespace OutputFormat

def all : List OutputFormat :=
  [iso, withoutMillis, simple, millis]

def name : OutputFormat → String
  | iso => "iso"
  | withoutMillis => "no-ms"
  | simple => "simple"
  | millis => "millis"

def ofName? (name : String) : Option OutputFormat :=
  all.find? (·.name = name)

/-- An instant as a command prints it. The clock of a command is that of the machine, from which no
expression comes to a year that is too long to be written. -/
def text (f : OutputFormat) (i : Instant) : List Char :=
  match f with
  | iso => i.isoForm
  | withoutMillis => i.isoSecondsForm
  | simple => i.compactForm
  | millis => decimal i.epochMillis

end OutputFormat

/-- A command of the command line with its options. -/
inductive Command
  | parse (expression : String) (zone? : Option String) (format : OutputFormat) (json : Bool)
  | validate (expression : String) (zone? : Option String)
  | render (expression : String) (zone? locale? : Option String)
  | constants
  | configInit (zone? locale? pinnedNow? : Option String)
  | configShow
  | configSet (key value : String)
deriving DecidableEq

/-- Why a command breaks off without a report. -/
inductive Breakdown
  | longNumber
  | textHasNoMember
  | textHasNoSection
deriving DecidableEq

/-- How a command ends: with an exit code and what it prints, or broken off. -/
inductive Outcome
  | exited (code : Nat) (output errors : String)
  | brokenOff (cause : Breakdown)
deriving DecidableEq

/-- The exit code of a command. One that is broken off ends with that of a failure. -/
def Outcome.exitCode : Outcome → Nat
  | exited code _ _ => code
  | brokenOff _ => 1

/-- What a command finds when it starts. -/
structure Surroundings where
  path : String
  env : Environment
  now : Instant

/-- A text as it is printed to anything but a terminal. -/
def plainText (text : String) : String :=
  String.ofList (withoutSequences text.toList)

namespace Outcome

/-- An outcome as it is printed to anything but a terminal. -/
def plain : Outcome → Outcome
  | exited code output errors => exited code (plainText output) (plainText errors)
  | brokenOff cause => brokenOff cause

def printed (text : String) : Outcome :=
  exited 0 (text ++ "\n") ""

def reported (r : Report) : Outcome :=
  exited 1 "" (r.commandText ++ "\n")

def failed (f : Failure) : Outcome :=
  match f.report? with
  | some r => reported r
  | none => brokenOff .longNumber

/-- A file that cannot be read is named; settings that only the environment or the command spoils
are not. -/
def ofStoreFault (path : String) : StoreFault → Outcome
  | .unreadable (.longNumeral _) => brokenOff .longNumber
  | .unreadable _ => reported (.make .settings none none [("path", .text path)])
  | .refused _ => reported (.make .settings none none [])

@[simp]
theorem exitCode_printed (text : String) : (printed text).exitCode = 0 :=
  rfl

@[simp]
theorem exitCode_failed (failure : Failure) : (failed failure).exitCode = 1 := by
  unfold failed
  split <;> rfl

@[simp]
theorem exitCode_ofStoreFault (path : String) (fault : StoreFault) :
    (ofStoreFault path fault).exitCode = 1 := by
  cases fault with
  | unreadable fault => cases fault <;> rfl
  | refused faults => rfl

end Outcome

/-- An option that is empty counts as missing. -/
def given? (option? : Option String) : Option String :=
  option?.filter (· ≠ "")

/-- The context of a command: that of the settings, in another zone if one is given. -/
def Settings.contextIn (s : Settings) (zone? : Option String) (now : Instant) :
    Except Failure Context :=
  match s.context now with
  | .error failure => .error failure
  | .ok context =>
    match given? zone? with
    | none => .ok context
    | some id =>
      match Zone.resolve id with
      | .error failure => .error failure
      | .ok zone => .ok { context with zone := zone }

/-- Runs a command in the context of the settings, which it does not change. -/
def inContext (file : SettingsFile) (around : Surroundings) (zone? : Option String)
    (act : Settings → Context → Outcome) : Outcome :=
  match (file.bootstrap [] around.env false around.now).2 with
  | .error fault => .ofStoreFault around.path fault
  | .ok settings =>
    match settings.contextIn zone? around.now with
    | .error failure => .failed failure
    | .ok context => act settings context

def Context.evaluate (c : Context) (expression : String) (now : Instant) :
    Except Failure Instant :=
  Almanac.evaluate (some expression) c.zone (c.now now)

/-- The members of the object that `parse` prints. -/
def parsedJson (expression : String) (zone : Zone) (i : Instant) (format : OutputFormat) : Json :=
  .object
    [("expression", .string expression),
     ("zone", .string zone.id),
     ("instant", .string (String.ofList i.isoForm)),
     ("epochMillis", .integer i.epochMillis),
     ("formatted", .string (String.ofList (format.text i)))]

/-- The explicit values for settings among the options of a command. -/
def overridesOf (zone? locale? pinnedNow? : Option String) : List (String × Json) :=
  [(Setting.zone, zone?), (Setting.locale, locale?), (Setting.pinnedNow, pinnedNow?)].filterMap
    fun (s, option?) => (given? option?).map fun value => (s.key, .string value)

/-- Sets the value at a path of keys. A path that leads elsewhere than to a setting only saves the
settings again. -/
def assignValue (file : SettingsFile) (around : Surroundings) (key value : String) :
    SettingsFile × Outcome :=
  let refused (count : Nat) : SettingsFile × Outcome :=
    (file, .exited 1 "" ("❌ Invalid value for " ++ key ++ ": " ++ String.ofList (decimal count)
      ++ (if count = 1 then " validation error" else " validation errors") ++ " for Settings\n"))
  match file.settings around.now with
  | .error fault => (file, .ofStoreFault around.path (.unreadable fault))
  | .ok settings =>
    let save (d : Draft) : SettingsFile × Outcome :=
      match d.settings around.now with
      | .error faults => refused faults.length
      | .ok updated => (some updated.fileText, .printed ("Updated " ++ key))
    match KeyTarget.ofPath key.toList with
    | .wholeSection => refused 1
    | .setting s => save ((Draft.ofSettings settings).assign s (.string value))
    | .belowSetting _ levels =>
      (file, .brokenOff (if levels = 1 then .textHasNoMember else .textHasNoSection))
    | .elsewhere => save (.ofSettings settings)

/-- Runs a command on the settings file. -/
def Command.run (c : Command) (file : SettingsFile) (around : Surroundings) :
    SettingsFile × Outcome :=
  match c with
  | parse expression zone? format json =>
    (file, inContext file around zone? fun _ context =>
      match context.evaluate expression around.now with
      | .error failure => .failed failure
      | .ok i =>
        if json then
          .printed (String.ofList (parsedJson expression context.zone i format).line)
        else .printed (String.ofList (format.text i)))
  | validate expression zone? =>
    (file, inContext file around zone? fun _ context =>
      match isValid (some expression) context.zone (context.now around.now) with
      | .error failure => .failed failure
      | .ok true => .printed "✅ valid"
      | .ok false => .exited 1 "❌ invalid\n" "")
  | render expression zone? locale? =>
    (file, inContext file around zone? fun settings context =>
      match context.evaluate expression around.now with
      | .error failure => .failed failure
      | .ok i =>
        let locale := (given? locale?).getD settings.locale.string
        .printed ("Month: " ++ String.ofList (context.zone.monthYear i locale)
          ++ "\nWeek:  " ++ String.ofList (context.zone.weekYear i)))
  | constants => (file, .printed wellKnownTable)
  | configInit zone? locale? pinnedNow? =>
    match file.bootstrap (overridesOf zone? locale? pinnedNow?) around.env true around.now with
    | (file, .error fault) => (file, .ofStoreFault around.path fault)
    | (file, .ok settings) =>
      (file, .printed ("Configuration initialized at " ++ around.path ++ "\n"
        ++ String.ofList settings.fileText))
  | configShow =>
    match (file.bootstrap [] around.env false around.now).2 with
    | .error fault => (file, .ofStoreFault around.path fault)
    | .ok settings => (file, .printed (String.ofList settings.fileText))
  | configSet key value => assignValue file around key value

end Almanac
