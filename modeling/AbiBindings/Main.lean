import AbiBindings.CommandLine.FileTree
import AbiBindings.CommandLine.Run

/-!
# The program

The machine as a host: its files, and standard error as the log. The program performs on it what
the arguments ask for, and tells the ending by its exit code.
-/

set_option autoImplicit false

namespace AbiBindings.CommandLine

/-- How to call the program. -/
def usageText : String :=
  "usage: generate -a ABI -o DIRECTORY -p PACKAGE [-b BINARY] " ++
    "[--nativeTypes | --solidityTypes] [--noFormat]"

/-- The text of a failure of the machine. -/
def failureText : IO.Error → String
  | .noFileOrDirectory _ _ _ => PathFault.notFound.message
  | .alreadyExists _ _ _ => PathFault.exists_.message
  | .inappropriateType _ 21 _ => PathFault.isADirectory.message
  | .inappropriateType _ _ _ => PathFault.notADirectory.message
  | .invalidArgument _ 36 _ => PathFault.tooLong.message
  | error => toString error

/-- Does something that can fail, and tells the failure. -/
def attempt {α : Type} (action : IO α) : IO (Except String α) := do
  try return .ok (← action)
  catch error => return .error (failureText error)

/-- Reads a file. -/
def readBytes (path : String) : IO (List UInt8) := do
  return (← IO.FS.readBinFile path).toList

/-- Writes a file and makes the directories that are missing on the way to it. -/
def writeText (path source : String) : IO Unit := do
  let parent := Text.join "/" (FilePath.pieces path).dropLast
  if parent ≠ "" then IO.FS.createDirAll parent
  IO.FS.writeBinFile path ⟨(Text.Utf8.encode source).toArray⟩

/-- The machine. It starts no other program, so it finds no formatter, and it does not show a user
all records. -/
def machine : Host IO where
  read path := attempt (readBytes path)
  write path source := attempt (writeText path source)
  format _ := return .error PathFault.notFound.message
  log entry := do
    if entry.level ≠ .debug then IO.eprintln entry.line

/-- Tells a user why there is no output. -/
def explain : Ending → IO Unit
  | .usage fault => do
    if fault.exitCode ≠ 0 then IO.eprintln ("error: " ++ fault.name)
    IO.eprintln usageText
  | .failed failure => IO.eprintln failure.message
  | .succeeded _ => return

/-- The program. -/
def program (arguments : List String) : IO UInt32 := do
  let ending ← perform machine arguments
  explain ending
  return ending.exitCode.toUInt32

end AbiBindings.CommandLine

/-- Generates the bindings that the arguments ask for. -/
def main (arguments : List String) : IO UInt32 :=
  AbiBindings.CommandLine.program arguments
