import AbiBindings.Bindings.Generate
import AbiBindings.Bindings.Source

/-!
# Jobs

A job names the files that one contract is generated from and the place of the output. The file with
the interface names the contract. `Job.perform` does a job by what a host offers: it reads files,
formats code, keeps a log, and writes the output in one write at the very end. The program performs
jobs on the files of the machine. `Job.run` is the same on a storage, which is a value, and with a
formatter, which is a function.
-/

set_option autoImplicit false

namespace AbiBindings

open Bindings

/-- How important a record of the log is. -/
inductive LogLevel where
  | info
  | debug
  | warn
  deriving DecidableEq, Repr

/-- A record of the log. -/
structure LogRecord where
  level : LogLevel
  text : String
  deriving DecidableEq, Repr

/-- The name of a level. -/
def LogLevel.name : LogLevel → String
  | .info => "INFO"
  | .debug => "DEBUG"
  | .warn => "WARN"

/-- The line of a record. -/
def LogRecord.line (r : LogRecord) : String :=
  r.level.name ++ ": " ++ r.text

/-- A contract to generate bindings for. -/
structure Job where
  /-- The file with the interface. -/
  abiPath : String
  /-- The file with the compiled code, if there is one. -/
  binPath : Option String
  /-- The directory that the output is placed below. -/
  outputDir : String
  /-- The package of the contract. -/
  package : String
  /-- How integers are represented. -/
  policy : TypePolicy

/-- What a job writes. -/
structure Output where
  path : String
  source : String
  deriving DecidableEq, Repr

/-- What a job did: its records and its output, or why there is none. -/
structure Report where
  logs : List LogRecord
  result : Except GenerationFailure Output

/-- What a job asks its surroundings to do. A failure is given by its text. -/
structure Host (m : Type → Type) where
  read : String → m (Except String (List UInt8))
  write : String → String → m (Except String Unit)
  /-- Formats code. -/
  format : String → m (Except String String)
  log : LogRecord → m Unit

/-- A formatter of code: what it makes of a text, or why it makes nothing of it. It is a function,
so it answers the same whenever it is asked about the same text. -/
abbrev Formatter := String → Except String String

/-- Files that jobs read and write. A failure is given by its text. -/
structure Storage (σ : Type) where
  read : σ → String → Except String (List UInt8)
  write : σ → String → String → σ × Except String Unit

/-- The host that a storage and a formatter are, with the files and the log as its state. -/
def Storage.host {σ : Type} (storage : Storage σ) (formatter : Formatter) :
    Host (StateM (σ × List LogRecord)) where
  read path := do
    let (files, _) ← get
    return storage.read files path
  write path source := do
    let (files, logs) ← get
    let (files', answer) := storage.write files path source
    set (files', logs)
    return answer
  format text := return formatter text
  log entry := modify fun (files, logs) => (files, logs ++ [entry])

section

variable {m : Type → Type} [Monad m]

/-- The text that bindings are written as. It stays unformatted if no formatting is asked for or if
it fails, and the failure is logged. -/
def Bindings.ContractBindings.toSource (host : Host m) (b : ContractBindings) : m String := do
  if !b.format then return b.source
  match ← host.format b.source with
  | .ok formatted => return formatted
  | .error text => do
    host.log ⟨.warn, "unable to format generated code: " ++ text⟩
    return b.source

namespace Job

/-- The name of the contract: the stem of the interface file, its first letter in upper case. -/
def contractName (job : Job) : String :=
  Naming.capitalize (FilePath.stem job.abiPath)

/-- The name of the contract with its package. -/
def qualifiedName (job : Job) : String :=
  if job.package = "" then job.contractName else job.package ++ "." ++ job.contractName

/-- The settings of a job. -/
def settings (job : Job) (format : Bool) : Settings where
  visibility := some "pub"
  package := job.package
  policy := job.policy
  format := format

/-- Reads a file. -/
def readFile (host : Host m) (path : String) : ExceptT GenerateError m (List UInt8) := do
  match ← host.read path with
  | .ok bytes => return bytes
  | .error text => throw (.io text)

/-- The compiled code of a job. -/
def readCode (host : Host m) (job : Job) : ExceptT GenerateError m Bytecode := do
  match job.binPath with
  | some path => return .ofBytes (← readFile host path)
  | none => return .notProvided

/-- The bindings that a job generates. The compiled code is read first. -/
def bindings (host : Host m) (format : Bool) (job : Job) :
    ExceptT GenerateError m ContractBindings := do
  let code ← readCode host job
  let document ← readFile host job.abiPath
  generateFromDocument (job.settings format) job.contractName document code

/-- Where bindings are written. -/
def outputPath (job : Job) (b : ContractBindings) : String :=
  FilePath.join job.outputDir b.relativePath

/-- The record at the start of a job. -/
def startLog (job : Job) : LogRecord :=
  ⟨.info, "Generating " ++ job.qualifiedName ++ " ... "⟩

/-- The record of bindings that are generated. -/
def bindingsLog (b : ContractBindings) : LogRecord :=
  ⟨.debug, "expanded " ++ toString b.members.length ++ " members for contract " ++ b.contractName⟩

/-- The record of a file that was written. -/
def writtenLog (job : Job) : LogRecord :=
  ⟨.info, "File written to " ++ job.outputDir⟩

/-- Generates the bindings of a job and writes them. -/
def performNamed (host : Host m) (format : Bool) (job : Job) :
    ExceptT GenerateError m Output := do
  let b ← job.bindings host format
  host.log (bindingsLog b)
  let source ← (b.toSource host : m String)
  match ← host.write (job.outputPath b) source with
  | .ok () =>
    host.log job.writtenLog
    return ⟨job.outputPath b, source⟩
  | .error text => throw (.io text)

/-- Does a job. A failure names the contract. -/
def perform (host : Host m) (format : Bool) (job : Job) :
    m (Except GenerationFailure Output) := do
  host.log job.startLog
  match ← (job.performNamed host format).run with
  | .ok output => return .ok output
  | .error error => return .error ⟨job.qualifiedName, error⟩

end Job

end

/-- Runs a job on a storage. -/
def Job.run {σ : Type} (storage : Storage σ) (formatter : Formatter) (format : Bool) (job : Job)
    (files : σ) : σ × Report :=
  let (result, files', logs) := (job.perform (storage.host formatter) format).run (files, [])
  (files', ⟨logs, result⟩)

end AbiBindings
