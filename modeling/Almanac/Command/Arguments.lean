import Almanac.Command.Basic
import Almanac.Settings.Location

namespace Almanac

/-- The options and arguments of a command as they are given. -/
structure Given where
  options : List (String × String)
  flags : List String
  arguments : List String

namespace Given

def empty : Given := ⟨[], [], []⟩

/-- The value of an option. Of several the last one counts. -/
def option? (g : Given) (name : String) : Option String :=
  (g.options.reverse.find? (·.1 = name)).map (·.2)

end Given

/-- The options that a command takes: those with a value, of which some have a letter, and flags. -/
structure Grammar where
  valued : List (String × Option Char)
  flags : List String

/-- The name of a valued option that an argument gives, with the value if it is joined to it. -/
def Grammar.valued? (g : Grammar) (argument : List Char) : Option (String × Option String) :=
  match argument with
  | '-' :: '-' :: name =>
    let head := String.ofList (name.takeWhile (· ≠ '='))
    match g.valued.find? (·.1 = head) with
    | none => none
    | some _ =>
      match name.dropWhile (· ≠ '=') with
      | [] => some (head, none)
      | _ :: value => some (head, some (String.ofList value))
  | '-' :: letter :: value =>
    (g.valued.find? (·.2 = some letter)).map fun entry =>
      (entry.1, if value = [] then none else some (String.ofList value))
  | _ => none

/-- Sorts arguments into options and others. After `--` all are others. -/
def Grammar.sort? (g : Grammar) : List String → Option Given
  | [] => some .empty
  | "--" :: rest => some { Given.empty with arguments := rest }
  | argument :: rest =>
    match g.valued? argument.toList, rest with
    | some (name, some value), rest =>
      (g.sort? rest).map fun given => { given with options := (name, value) :: given.options }
    | some (name, none), value :: rest =>
      (g.sort? rest).map fun given => { given with options := (name, value) :: given.options }
    | some (_, none), [] => none
    | none, rest =>
      if g.flags.any fun flag => "--" ++ flag = argument then
        (g.sort? rest).map fun given => { given with flags := argument :: given.flags }
      else if argument.startsWith "-" && argument ≠ "-" then none
      else
        (g.sort? rest).map fun given =>
          { given with arguments := argument :: given.arguments }

/-- A command and the settings file it is asked to use. -/
structure Invocation where
  command : Command
  path? : Option String

/-- The option that names the settings file. -/
def pathOption : String := "config-path"

/-- The settings file that a command is asked to use, by the text of its path. -/
def Given.path? (g : Given) : Option String :=
  (g.option? pathOption).map tidyPath

/-- The command that a command line asks for, if it is used as it should be. -/
def Invocation.ofArguments? (arguments : List String) : Option Invocation :=
  let sorted (valued : List (String × Option Char)) (flags rest : List String) :=
    Grammar.sort? ⟨(pathOption, none) :: valued, flags⟩ rest
  let zone : String × Option Char := ("zone", some 'z')
  match arguments with
  | "parse" :: rest =>
    match sorted [zone, ("format", some 'f')] ["json"] rest with
    | some given =>
      match given.arguments, OutputFormat.ofName? ((given.option? "format").getD "iso") with
      | [expression], some format =>
        some ⟨.parse expression (given.option? "zone") format !given.flags.isEmpty,
          given.path?⟩
      | _, _ => none
    | none => none
  | "validate" :: rest =>
    match sorted [zone] [] rest with
    | some given =>
      match given.arguments with
      | [expression] =>
        some ⟨.validate expression (given.option? "zone"), given.path?⟩
      | _ => none
    | none => none
  | "render" :: rest =>
    match sorted [zone, ("locale", some 'l')] [] rest with
    | some given =>
      match given.arguments with
      | [expression] =>
        some ⟨.render expression (given.option? "zone") (given.option? "locale"),
          given.path?⟩
      | _ => none
    | none => none
  | "constants" :: rest =>
    match Grammar.sort? ⟨[], []⟩ rest with
    | some given => if given.arguments.isEmpty then some ⟨.constants, none⟩ else none
    | none => none
  | "config" :: "init" :: rest =>
    match sorted [("zone", none), ("locale", none), ("pinned-now", none)] [] rest with
    | some given =>
      if given.arguments.isEmpty then
        some ⟨.configInit (given.option? "zone") (given.option? "locale")
          (given.option? "pinned-now"), given.path?⟩
      else none
    | none => none
  | "config" :: "show" :: rest =>
    match sorted [] [] rest with
    | some given =>
      if given.arguments.isEmpty then some ⟨.configShow, given.path?⟩ else none
    | none => none
  | "config" :: "set" :: rest =>
    match sorted [] [] rest with
    | some given =>
      match given.arguments with
      | [key, value] => some ⟨.configSet key value, given.path?⟩
      | _ => none
    | none => none
  | _ => none

end Almanac
