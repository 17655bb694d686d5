import AbiBindings.Job

/-!
# A store of files

Files in memory, under paths that are compared as texts. The store is a list in the order of the
paths without repetitions, so that stores with the same files are equal. It can be told to refuse
every write.
-/

set_option autoImplicit false

namespace AbiBindings

/-- Files under their paths, in the order of the paths. -/
abbrev FileList := List (String × List UInt8)

namespace FileList

/-- The files with one more, in place of a file under the same path. -/
def put (path : String) (data : List UInt8) : FileList → FileList
  | [] => [(path, data)]
  | (p, d) :: rest =>
    if path = p then (path, data) :: rest
    else if path < p then (path, data) :: (p, d) :: rest
    else (p, d) :: put path data rest

/-- The files without the one under a path. -/
def remove (path : String) (files : FileList) : FileList :=
  files.filter fun (p, _) => p ≠ path

end FileList

/-- A store of files in memory. -/
structure Store where
  files : FileList
  /-- Why every write fails, if it does. -/
  writeFailure : Option String

namespace Store

/-- The store without files. -/
def empty : Store := ⟨[], none⟩

/-- The file under a path. -/
def get? (store : Store) (path : String) : Option (List UInt8) :=
  store.files.lookup path

/-- Puts a file under a path. -/
def put (store : Store) (path : String) (data : List UInt8) : Store :=
  { store with files := FileList.put path data store.files }

/-- Removes the file under a path. -/
def remove (store : Store) (path : String) : Store :=
  { store with files := FileList.remove path store.files }

/-- Makes every write fail from now on, or succeed again. -/
def failWrites (store : Store) (failure : Option String) : Store :=
  { store with writeFailure := failure }

/-- Reads a file. -/
def read (store : Store) (path : String) : Except String (List UInt8) :=
  match store.get? path with
  | some data => .ok data
  | none => .error ("no file " ++ path)

/-- Writes a file. A write that fails changes nothing. -/
def write (store : Store) (path source : String) : Store × Except String Unit :=
  match store.writeFailure with
  | some text => (store, .error text)
  | none => (store.put path (Text.Utf8.encode source), .ok ())

/-- The storage of jobs that a store is. -/
def storage : Storage Store where
  read := read
  write := write

/-- Something that happens to a store. -/
inductive Step where
  | put (path : String) (data : List UInt8)
  | remove (path : String)
  | failWrites (failure : Option String)
  | run (job : Job)

/-- One step, with the report of a job. -/
def step (formatter : Formatter) (format : Bool) (store : Store) : Step → Store × Option Report
  | .put path data => (store.put path data, none)
  | .remove path => (store.remove path, none)
  | .failWrites failure => (store.failWrites failure, none)
  | .run job =>
    let (store', report) := job.run storage formatter format store
    (store', some report)

/-- The stores and the reports of a sequence of steps. -/
def steps (formatter : Formatter) (format : Bool) (store : Store) :
    List Step → List (Store × Option Report)
  | [] => []
  | s :: rest =>
    let (store', report) := store.step formatter format s
    (store', report) :: store'.steps formatter format rest

end Store

end AbiBindings
