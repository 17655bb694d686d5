import AbiBindings.Job

/-!
# A tree of files

Directories and files as an operating system keeps them. A directory holds its entries by name. The
working directory stands in the root under a name that no path can spell, so that paths reach it
from within only.

Reading and writing follow a path name by name: a name has to exist, and what comes before another
name has to be a directory. A `Spot` is a directory together with the directories around it, so
that a path can go back and a change can be carried up to the root. Directories that are missing on
the way to a file are made before it is written. Names and paths are limited in length.
-/

set_option autoImplicit false

namespace AbiBindings.CommandLine

/-- Why a path cannot be used. -/
inductive PathFault where
  | notFound
  | exists_
  | notADirectory
  | isADirectory
  | tooLong
  | containsNul
  deriving DecidableEq, Repr

/-- The text of a path fault. -/
def PathFault.message : PathFault → String
  | .notFound => "No such file or directory (os error 2)"
  | .exists_ => "File exists (os error 17)"
  | .notADirectory => "Not a directory (os error 20)"
  | .isADirectory => "Is a directory (os error 21)"
  | .tooLong => "File name too long (os error 36)"
  | .containsNul => "file name contained an unexpected NUL byte"

/-- What stands under a name: a file, or a directory with entries. -/
inductive Node where
  | file (data : List UInt8)
  | directory (entries : List (String × Node))

/-- The entries of a directory, each under a name of its own. -/
abbrev Entries := List (String × Node)

/-- The number of bytes that a name may have. -/
def greatestName : Nat := 255

/-- The number of bytes that a path may have. -/
def greatestPath : Nat := 4095

namespace Entries

/-- The node under a name. A name that is too long cannot be looked for. -/
def find (entries : Entries) (name : String) : Except PathFault Node :=
  if greatestName < name.utf8ByteSize then .error .tooLong
  else
    match entries.lookup name with
    | some node => .ok node
    | none => .error .notFound

/-- The entries with a node under a name, in place of one that stands there. -/
def set (entries : Entries) (name : String) (node : Node) : Entries :=
  (name, node) :: entries.filter fun (n, _) => n ≠ name

end Entries

/-- A directory in its surroundings. -/
structure Spot where
  /-- The entries of the directory. -/
  entries : Entries
  /-- The directories around it, the innermost first. Each comes with the name under which the one
  within stands. -/
  around : List (String × Entries)

namespace Spot

/-- The entries of the root, with what has changed in the directory. -/
def root (spot : Spot) : Entries :=
  spot.around.foldl (fun inner (name, outer) => Entries.set outer name (.directory inner))
    spot.entries

/-- A directory within. -/
def enter (spot : Spot) (name : String) (entries : Entries) : Spot :=
  ⟨entries, (name, spot.entries) :: spot.around⟩

/-- The directory around; the root is around itself. What has changed goes with it. -/
def leave (spot : Spot) : Spot :=
  match spot.around with
  | [] => spot
  | (name, outer) :: around => ⟨Entries.set outer name (.directory spot.entries), around⟩

end Spot

/-- What a path leads to. -/
inductive Target where
  | directory (spot : Spot)
  | file (data : List UInt8)

/-- Follows names from a directory. -/
def follow : List String → Spot → Except PathFault Target
  | [], spot => .ok (.directory spot)
  | name :: rest, spot =>
    if name = "." then follow rest spot
    else if name = ".." then follow rest spot.leave
    else
      match Entries.find spot.entries name with
      | .error fault => .error fault
      | .ok (.directory entries) => follow rest (spot.enter name entries)
      | .ok (.file data) => if rest.isEmpty then .ok (.file data) else .error .notADirectory

/-- Follows names to a directory. -/
def followToDirectory (names : List String) (spot : Spot) : Except PathFault Spot :=
  match follow names spot with
  | .ok (.directory found) => .ok found
  | .ok (.file _) => .error .notADirectory
  | .error fault => .error fault

/-- A tree of files, by the entries of its root. -/
structure FileTree where
  entries : Entries

namespace FileTree

/-- The name of the working directory in the root. -/
def workingName : String := ""

/-- The tree with an empty working directory. -/
def empty : FileTree := ⟨[(workingName, .directory [])]⟩

/-- The entries of the working directory. -/
def workingEntries (tree : FileTree) : Entries :=
  match tree.entries.lookup workingName with
  | some (.directory entries) => entries
  | _ => []

/-- Where a path starts. -/
def origin (tree : FileTree) (path : String) : Spot :=
  let root : Spot := ⟨tree.entries, []⟩
  if FilePath.isAbsolute path then root else root.enter workingName tree.workingEntries

/-- The names of a path. A slash at the end stands for the directory itself. -/
def names (path : String) : List String :=
  let pieces := FilePath.pieces path
  pieces.filter (· ≠ "") ++ (if 1 < pieces.length ∧ pieces.getLast? = some "" then ["."] else [])

/-- What is wrong with a path whatever there is in a tree. -/
def pathFault? (path : String) : Option PathFault :=
  if path.toList.contains '\x00' then some .containsNul
  else if path = "" then some .notFound
  else if greatestPath < path.utf8ByteSize then some .tooLong
  else none

/-- Reads the file at the end of a path. -/
def readFile (tree : FileTree) (path : String) : Except PathFault (List UInt8) :=
  match pathFault? path with
  | some fault => .error fault
  | none =>
    match follow (names path) (tree.origin path) with
    | .ok (.file data) => .ok data
    | .ok (.directory _) => .error .isADirectory
    | .error fault => .error fault

/-- Makes a directory at the end of a list of names. -/
def makeDirectory (path : String) (names : List String) (tree : FileTree) :
    Except PathFault FileTree :=
  match names.getLast? with
  | none => .error .exists_
  | some name =>
    match followToDirectory names.dropLast (tree.origin path) with
    | .error fault => .error fault
    | .ok spot =>
      if name = "." ∨ name = ".." then .error .exists_
      else
        match Entries.find spot.entries name with
        | .ok _ => .error .exists_
        | .error .notFound =>
          .ok ⟨Spot.root { spot with entries := Entries.set spot.entries name (.directory []) }⟩
        | .error fault => .error fault

/-- Whether names lead to a directory. -/
def leadsToDirectory (path : String) (names : List String) (tree : FileTree) : Bool :=
  match followToDirectory names (tree.origin path) with
  | .ok _ => true
  | .error _ => false

/-- Makes a directory and all that are missing on the way to it. The names are given from the last
to the first. A failure leaves the directories that were made before it. -/
def makeDirectories (path : String) : List String → FileTree → FileTree × Except PathFault Unit
  | [], tree => (tree, .ok ())
  | name :: outer, tree =>
    let names := (name :: outer).reverse
    match makeDirectory path names tree with
    | .ok tree' => (tree', .ok ())
    | .error .notFound =>
      match makeDirectories path outer tree with
      | (tree', .error fault) => (tree', .error fault)
      | (tree', .ok ()) =>
        match makeDirectory path names tree' with
        | .ok tree'' => (tree'', .ok ())
        | .error fault =>
          if leadsToDirectory path names tree' then (tree', .ok ()) else (tree', .error fault)
    | .error fault =>
      if leadsToDirectory path names tree then (tree, .ok ()) else (tree, .error fault)

/-- Makes the directories on the way to the end of a path. -/
def makeParents (path : String) (tree : FileTree) : FileTree × Except PathFault Unit :=
  if greatestPath < (FilePath.parent path).utf8ByteSize then (tree, .error .tooLong)
  else makeDirectories path (FilePath.components path).reverse.tail tree

/-- Writes data to the end of a path whose directories are there. -/
def overwrite (tree : FileTree) (path : String) (data : List UInt8) :
    FileTree × Except PathFault Unit :=
  if greatestPath < path.utf8ByteSize then (tree, .error .tooLong)
  else
    match (names path).getLast? with
    | none => (tree, .error .isADirectory)
    | some name =>
      match followToDirectory (names path).dropLast (tree.origin path) with
      | .error fault => (tree, .error fault)
      | .ok spot =>
        if name = "." ∨ name = ".." then (tree, .error .isADirectory)
        else
          match Entries.find spot.entries name with
          | .ok (.directory _) => (tree, .error .isADirectory)
          | .error .tooLong => (tree, .error .tooLong)
          | _ =>
            (⟨Spot.root { spot with entries := Entries.set spot.entries name (.file data) }⟩,
              .ok ())

/-- Writes a file and makes the directories that are missing on the way to it. -/
def writeFile (tree : FileTree) (path : String) (data : List UInt8) :
    FileTree × Except PathFault Unit :=
  if path.toList.contains '\x00' then (tree, .error .containsNul)
  else
    match makeParents path tree with
    | (tree', .error fault) => (tree', .error fault)
    | (tree', .ok ()) => tree'.overwrite path data

/-- The storage of jobs that a tree is. -/
def storage : Storage FileTree where
  read := fun tree path => (tree.readFile path).mapError PathFault.message
  write := fun tree path source =>
    let (tree', result) := tree.writeFile path (Text.Utf8.encode source)
    (tree', result.mapError PathFault.message)

end FileTree

end AbiBindings.CommandLine
