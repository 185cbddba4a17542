import Almanac.Failure

namespace Almanac

/-- What a user is told about a kind of failure, under its code. -/
structure Advice where
  code : String
  explanation : String
  suggestion : String
deriving DecidableEq

namespace Category

def all : List Category :=
  [general, expression, duration, unit, range, zone, configuration, settings]

def advice : Category → Advice
  | expression =>
    ⟨"INVALID_EXPRESSION",
     "The text is not a date, a time or a date expression.",
     "Use ISO dates like '2014-05-01', anchors like 'yesterday' or durations like '-1d'."⟩
  | duration =>
    ⟨"INVALID_DURATION",
     "The duration after '+' or '-' could not be understood.",
     "Write durations as a number followed by a unit, e.g. 'now - 100y'."⟩
  | unit =>
    ⟨"INVALID_UNIT",
     "The duration uses a unit that is not supported.",
     "Use one of the units ms, s, h, d, w, m or y (case sensitive)."⟩
  | range =>
    ⟨"OUT_OF_RANGE",
     "The resulting date falls outside the supported years.",
     "Keep years between -9999 and 9999."⟩
  | zone =>
    ⟨"AMBIGUOUS_ZONE",
     "The time zone could not be resolved.",
     "Use an IANA name like 'Europe/Berlin' or an offset like '+02:00'."⟩
  | configuration =>
    ⟨"CONFIGURATION_ERROR",
     "There's a configuration issue.",
     "Run 'datemath config show' to inspect the settings."⟩
  | settings =>
    ⟨"INVALID_CONFIG",
     "The configuration is invalid. Check settings.",
     "Fix the reported field or run 'datemath config init' to recreate the file."⟩
  | general =>
    ⟨"DATEMATH_ERROR",
     "The date expression could not be evaluated.",
     "Check the expression and try again."⟩

def code (c : Category) : String :=
  c.advice.code

/-- The message of a failure that brings none of its own. -/
def defaultMessage : Category → String
  | general => "Date expression could not be evaluated"
  | expression => "Illegal time expression"
  | duration => "Illegal duration"
  | unit => "Illegal time unit"
  | range => "Date outside the supported range"
  | zone => "Unknown time zone"
  | configuration => "Configuration error"
  | settings => "Invalid configuration"

/-- Only settings can be mended and tried again. -/
def recoverable (c : Category) : Bool :=
  c = configuration ∨ c = settings

/-- A category and those that it is a special case of, the most general one last. -/
def lineage : Category → List Category
  | general => [general]
  | unit => [unit, duration, general]
  | settings => [settings, configuration, general]
  | c => [c, general]

end Category

namespace Advice

/-- The advice on failures of no known kind. -/
def unknown : Advice :=
  ⟨"UNKNOWN_ERROR",
   "Something went wrong. Please try again.",
   "If the problem persists, run with --verbose and report the output."⟩

def ofCode (code : String) : Advice :=
  ((Category.all.map Category.advice).find? (·.code = code)).getD unknown

def userText (a : Advice) : String :=
  a.explanation ++ "\n\nSuggestion: " ++ a.suggestion

/-- The text for a command line, where `label` names the failure. -/
def commandText (a : Advice) (label : String) (details : List (String × Detail)) : String :=
  "Error [" ++ label ++ "]: " ++ a.userText
    ++ (if details.isEmpty then "" else "\n\nDetails:")
    ++ String.join (details.map fun (key, value) => "\n  " ++ key ++ ": " ++ value.toText)

end Advice

/-- A failure as it is reported. -/
structure Report where
  category : Category
  message : String
  userMessage : String
  details : List (String × Detail)
deriving DecidableEq

namespace Report

private def nonempty? (text? : Option String) : Option String :=
  text?.filter (· ≠ "")

/-- Empty texts count as missing: the message is then the one of the category, and the user is told
the explanation of the category. -/
def make (category : Category) (message? userMessage? : Option String)
    (details : List (String × Detail)) : Report where
  category := category
  message := (nonempty? message?).getD category.defaultMessage
  userMessage := (nonempty? userMessage?).getD category.advice.explanation
  details := details

def commandText (r : Report) : String :=
  r.category.advice.commandText r.category.code r.details

end Report

/-- The report of a failure, if it is of a kind that is reported. -/
def Failure.report? (f : Failure) : Option Report :=
  f.category?.map fun category => .make category (some f.message) none f.details

end Almanac
