import AbiBindings.CommandLine.Options

/-!
# Running the program

What the program does with its arguments: it either says why they make no job, or does the job and
tells how it ended.
-/

set_option autoImplicit false

namespace AbiBindings.CommandLine

/-- How a run of the program ended. -/
inductive Ending where
  /-- The arguments make no job. -/
  | usage (fault : UsageFault)
  | failed (failure : GenerationFailure)
  | succeeded (output : Output)

/-- The exit code of a run. -/
def Ending.exitCode : Ending → Nat
  | .usage fault => fault.exitCode
  | .failed _ => 1
  | .succeeded _ => 0

/-- Does what the arguments ask for by what a host offers. -/
def perform {m : Type → Type} [Monad m] (host : Host m) (arguments : List String) :
    m Ending := do
  match request arguments with
  | .error fault => return .usage fault
  | .ok request =>
    match ← request.job.perform host request.format with
    | .ok output =>
      host.log ⟨.debug, "generated " ++ output.path⟩
      return .succeeded output
    | .error failure => return .failed failure

/-- A run of the program: its records, its ending and the files it leaves. -/
structure Outcome (σ : Type) where
  logs : List LogRecord
  ending : Ending
  files : σ

/-- Runs the program on a storage. -/
def run {σ : Type} (storage : Storage σ) (formatter : Formatter) (arguments : List String)
    (files : σ) : Outcome σ :=
  let (ending, files', logs) := (perform (storage.host formatter) arguments).run (files, [])
  ⟨logs, ending, files'⟩

end AbiBindings.CommandLine
