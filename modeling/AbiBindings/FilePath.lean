import AbiBindings.Text.Join

/-!
# Paths of files

A path is a text of components between slashes. Empty components and single points, save one that
starts the path, do not count. The stem of a path is its last component without what follows the
last point, if that point is not the first character.
-/

set_option autoImplicit false

namespace AbiBindings.FilePath

/-- Whether a path starts at the root. -/
def isAbsolute (path : String) : Bool :=
  path.toList.head? == some '/'

/-- The texts between the slashes of a path. -/
def pieces (path : String) : List String :=
  Text.split (· == '/') path

/-- The components of a path that count. -/
def components (path : String) : List String :=
  match pieces path with
  | "." :: rest => "." :: rest.filter fun piece => piece ≠ "" ∧ piece ≠ "."
  | all => all.filter fun piece => piece ≠ "" ∧ piece ≠ "."

/-- The pieces of a path without those at the end that do not count. -/
def trimmedPieces (pieces : List String) : List String :=
  (pieces.reverse.dropWhile fun piece => piece = "" ∨ piece = ".").reverse

/-- The text of a path without its last component. -/
def parent (path : String) : String :=
  Text.join "/" (trimmedPieces (trimmedPieces (pieces path)).dropLast)

/-- The name of the file that a path leads to: its last component, unless that leads to a directory
by itself. -/
def fileName? (path : String) : Option String :=
  (components path).getLast?.filter fun name => name ≠ "." ∧ name ≠ ".."

/-- The characters of a name without its extension. -/
def stemChars (name : List Char) : List Char :=
  let behindPoint := name.reverse.dropWhile (· != '.')
  match behindPoint with
  | _ :: stem => if stem.isEmpty then name else stem.reverse
  | [] => name

/-- The stem of a path, empty if it leads to no file. -/
def stem (path : String) : String :=
  match fileName? path with
  | some name => String.ofList (stemChars name.toList)
  | none => ""

/-- A path that goes on with another one. A path from the root takes the place of what is before
it. -/
def join (directory path : String) : String :=
  if isAbsolute path then path
  else if directory = "" ∨ directory.toList.getLast? = some '/' then directory ++ path
  else directory ++ "/" ++ path

end AbiBindings.FilePath
