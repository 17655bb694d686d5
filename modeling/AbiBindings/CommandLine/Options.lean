import AbiBindings.Job

/-!
# Options of the command line

The command `generate` takes options with a value and flags, in any order. A value stands behind
its option or is attached to it: to a letter directly or by an equals sign, to a word by an equals
sign. Every option can be given once, and the two flags that choose the representation of integers
exclude each other.

The arguments are read one after the other. An option whose value stands behind it is settled only
when the next option is read, so that a fault in it gives way to an argument that is unknown
altogether.
-/

set_option autoImplicit false

namespace AbiBindings.CommandLine

open Bindings

/-- Why the arguments do not make a job. -/
inductive UsageFault where
  | displayHelp
  | displayVersion
  | displayHelpOnMissing
  | missingRequired
  | conflict
  | unknownArgument
  | invalidValue
  | tooManyValues
  | invalidSubcommand
  deriving DecidableEq, Repr

/-- The name of a usage fault. -/
def UsageFault.name : UsageFault → String
  | .displayHelp => "DisplayHelp"
  | .displayVersion => "DisplayVersion"
  | .displayHelpOnMissing => "DisplayHelpOnMissingArgumentOrSubcommand"
  | .missingRequired => "MissingRequiredArgument"
  | .conflict => "ArgumentConflict"
  | .unknownArgument => "UnknownArgument"
  | .invalidValue => "InvalidValue"
  | .tooManyValues => "TooManyValues"
  | .invalidSubcommand => "InvalidSubcommand"

/-- The exit code of a usage fault. Asking for help or for the version is no failure. -/
def UsageFault.exitCode : UsageFault → Nat
  | .displayHelp => 0
  | .displayVersion => 0
  | _ => 2

/-- An option of the command. -/
inductive OptionKey where
  | abiFile
  | binFile
  | outputDir
  | package
  | nativeTypes
  | solidityTypes
  | noFormat
  | help
  deriving DecidableEq, Repr

/-- Whether an option takes a value. -/
def OptionKey.takesValue : OptionKey → Bool
  | .abiFile => true
  | .binFile => true
  | .outputDir => true
  | .package => true
  | _ => false

/-- Whether the value of an option must not be empty. -/
def OptionKey.isPath : OptionKey → Bool
  | .abiFile => true
  | .binFile => true
  | .outputDir => true
  | _ => false

/-- The options by their words. -/
def longNames : List (String × OptionKey) := [
  ("abiFile", .abiFile), ("binFile", .binFile), ("outputDir", .outputDir), ("package", .package),
  ("nativeTypes", .nativeTypes), ("javaTypes", .nativeTypes), ("jt", .nativeTypes),
  ("solidityTypes", .solidityTypes), ("st", .solidityTypes), ("noFormat", .noFormat),
  ("help", .help)]

/-- The options by their letters. -/
def shortNames : List (Char × OptionKey) := [
  ('a', .abiFile), ('b', .binFile), ('o', .outputDir), ('p', .package), ('h', .help)]

/-- An argument by its form. -/
inductive Argument where
  /-- A word behind two hyphens, with a value if an equals sign follows it. -/
  | long (word : String) (value : Option String)
  /-- Letters behind one hyphen. -/
  | short (letters : List Char)
  /-- Two hyphens alone, which end the options. -/
  | separator
  /-- Anything else. -/
  | plain (text : String)
  deriving DecidableEq, Repr

/-- The form of an argument. -/
def Argument.ofString (s : String) : Argument :=
  match s.toList with
  | ['-', '-'] => .separator
  | '-' :: '-' :: rest =>
    let word := String.ofList (rest.takeWhile (· != '='))
    match rest.dropWhile (· != '=') with
    | _ :: value => .long word (some (String.ofList value))
    | [] => .long word none
  | '-' :: letter :: rest => .short (letter :: rest)
  | _ => .plain s

/-- What has been read: the options with their values, and an option that waits for its value or
has it and is not settled. -/
structure Progress where
  given : List (OptionKey × String)
  pending : Option (OptionKey × Option String)

namespace Progress

/-- Nothing has been read. -/
def start : Progress := ⟨[], none⟩

/-- Settles an option. It must not have been given before, and a path must not be empty. -/
def record (p : Progress) (key : OptionKey) (value : String) : Except UsageFault Progress :=
  if (p.given.lookup key).isSome then .error .conflict
  else if key.isPath && value = "" then .error .invalidValue
  else .ok { p with given := p.given ++ [(key, value)] }

/-- Settles the option that is pending. -/
def settle (p : Progress) : Except UsageFault Progress :=
  match p.pending with
  | none => .ok p
  | some (_, none) => .error .invalidValue
  | some (key, some value) => { p with pending := none }.record key value

/-- Reads an option with an attached value. -/
def withValue (p : Progress) (key : OptionKey) (value : String) : Except UsageFault Progress := do
  (← p.settle).record key value

/-- Reads an option whose value stands behind it. -/
def awaitValue (p : Progress) (key : OptionKey) : Except UsageFault Progress := do
  .ok { (← p.settle) with pending := some (key, none) }

/-- Reads a flag. Asking for help ends the reading. -/
def flag (p : Progress) (key : OptionKey) : Except UsageFault Progress := do
  let p ← p.settle
  if key = .help then .error .displayHelp else p.record key ""

/-- Reads a word with its value. -/
def long (p : Progress) (word : String) (value : Option String) : Except UsageFault Progress :=
  match longNames.lookup word with
  | none => .error .unknownArgument
  | some key =>
    match key.takesValue, value with
    | true, some value => p.withValue key value
    | true, none => p.awaitValue key
    | false, some _ => .error .tooManyValues
    | false, none => p.flag key

/-- Reads letters. The first that stands for an option with a value takes the others as the value,
without an equals sign in front of them. -/
def short (p : Progress) : List Char → Except UsageFault Progress
  | [] => .ok p
  | letter :: rest =>
    match shortNames.lookup letter with
    | none => .error .unknownArgument
    | some key =>
      if key.takesValue then
        match rest with
        | [] => p.awaitValue key
        | '=' :: value => p.withValue key (String.ofList value)
        | value => p.withValue key (String.ofList value)
      else do
        let p' ← p.flag key
        p'.short rest

/-- Reads a text that is no option: the value that is waited for, or too much. -/
def plain (p : Progress) (text : String) : Except UsageFault Progress :=
  match p.pending with
  | some (key, none) => .ok { p with pending := some (key, some text) }
  | _ => .error .unknownArgument

/-- Reads arguments one after the other. Nothing may follow the end of the options. -/
def readAll (p : Progress) : List String → Except UsageFault Progress
  | [] => p.settle
  | s :: rest =>
    match Argument.ofString s with
    | .separator => if rest.isEmpty then p.settle else .error .unknownArgument
    | .long word value => do (← p.long word value).readAll rest
    | .short letters => do (← p.short letters).readAll rest
    | .plain text => do (← p.plain text).readAll rest

/-- Whether an option was given. -/
def has (p : Progress) (key : OptionKey) : Bool :=
  (p.given.lookup key).isSome

/-- The value of a required option. -/
def required (p : Progress) (key : OptionKey) : Except UsageFault String :=
  match p.given.lookup key with
  | some value => .ok value
  | none => .error .missingRequired

end Progress

/-- What the command is asked to do: a job, and whether to format its output. -/
structure Request where
  job : Job
  format : Bool

/-- The request of the options that were read. -/
def Progress.request (p : Progress) : Except UsageFault Request := do
  if p.has .nativeTypes && p.has .solidityTypes then .error .conflict
  else
    let abiPath ← p.required .abiFile
    let outputDir ← p.required .outputDir
    let package ← p.required .package
    .ok {
      job := {
        abiPath := abiPath
        binPath := p.given.lookup .binFile
        outputDir := outputDir
        package := package
        policy := if p.has .solidityTypes then .exact else .native }
      format := !p.has .noFormat }

/-- The request of the arguments behind the command `generate`. -/
def generateRequest (arguments : List String) : Except UsageFault Request := do
  (← Progress.start.readAll arguments).request

/-- Whether a text names a command. -/
def isCommand (s : String) : Bool :=
  s = "generate" || s = "help"

/-- The help that arguments behind the command `help` ask for: for one command, or for all. -/
def helpFault : List String → UsageFault
  | [] => .displayHelp
  | [command] => if isCommand command then .displayHelp else .invalidSubcommand
  | _ => .invalidSubcommand

/-- Reads letters where a command should stand: `h` asks for help and `V` for the version. -/
def letterFault : List Char → UsageFault
  | 'h' :: _ => .displayHelp
  | 'V' :: _ => .displayVersion
  | _ => .unknownArgument

/-- Reads a word where a command should stand. -/
def wordFault (word : String) (value : Option String) : UsageFault :=
  if word = "help" ∨ word = "version" then
    if value.isSome then .tooManyValues
    else if word = "help" then .displayHelp else .displayVersion
  else .unknownArgument

/-- The request of the arguments of the program. -/
def request : List String → Except UsageFault Request
  | [] => .error .displayHelpOnMissing
  | s :: rest =>
    match Argument.ofString s with
    | .long word value => .error (wordFault word value)
    | .short letters => .error (letterFault letters)
    | .separator =>
      match rest with
      | [] => .error .displayHelpOnMissing
      | text :: _ => .error (if isCommand text then .unknownArgument else .invalidSubcommand)
    | .plain "generate" => generateRequest rest
    | .plain "help" => .error (helpFault rest)
    | .plain _ => .error .invalidSubcommand

end AbiBindings.CommandLine
