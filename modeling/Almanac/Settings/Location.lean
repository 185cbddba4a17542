import Almanac.Settings.KeyPath

namespace Almanac

/-- The slashes that begin the text of a path. Two are kept, more count as one. -/
def leadingSlashes (path : List Char) : List Char :=
  match path.takeWhile (· = '/') with
  | [] => []
  | [_, _] => ['/', '/']
  | _ => ['/']

/-- The text of a path without parts that are empty or stay in the same directory. -/
def tidyPath (path : String) : String :=
  let parts := (pieces '/' path.toList).filter fun part => part ≠ [] && part ≠ ['.']
  let tidy := leadingSlashes path.toList ++ ['/'].intercalate parts
  if tidy = [] then "." else String.ofList tidy

end Almanac
