import AbiBindings.Job
import AbiBindings.Proofs.Traversal

/-!
# What a run of a job does

A job is done by what a host offers, and a run of it is that on the host of a storage and a
formatter. Here the steps of a run are gone through once, each with the answer of the host. A run
generates the bindings from the files that it reads and changes nothing if there are none
(`run_of_error`); otherwise it writes the text of the bindings, formatted if that is asked for and
succeeds (`run_of_ok`).
-/

set_option autoImplicit false

namespace AbiBindings

open Bindings Traversal

/-! ## Text -/

namespace Bindings.ContractBindings

/-- The text that bindings are written as, given what a formatter makes of code. -/
def written (formatter : Formatter) (b : ContractBindings) : String :=
  match b.format, formatter b.source with
  | true, .ok formatted => formatted
  | _, _ => b.source

/-- The records of writing bindings as text. -/
def writtenLogs (formatter : Formatter) (b : ContractBindings) : List LogRecord :=
  match b.format, formatter b.source with
  | true, .error text => [⟨.warn, "unable to format generated code: " ++ text⟩]
  | _, _ => []

variable {formatter : Formatter} {b : ContractBindings}

/-- Bindings that are not to be formatted are written as they are, and nothing is logged. -/
theorem written_of_not_format (h : b.format = false) :
    b.written formatter = b.source ∧ b.writtenLogs formatter = [] := by
  rw [written, writtenLogs, h]
  exact ⟨rfl, rfl⟩

/-- Where formatting succeeds, its result is written. -/
theorem written_of_ok {formatted : String} (h : b.format = true)
    (hformatted : formatter b.source = .ok formatted) :
    b.written formatter = formatted ∧ b.writtenLogs formatter = [] := by
  rw [written, writtenLogs, h, hformatted]
  exact ⟨rfl, rfl⟩

/-- Where formatting fails, bindings are written as they are, and the failure is logged. -/
theorem written_of_error {text : String} (h : b.format = true)
    (hfailed : formatter b.source = .error text) :
    b.written formatter = b.source ∧
      b.writtenLogs formatter = [⟨.warn, "unable to format generated code: " ++ text⟩] := by
  rw [written, writtenLogs, h, hfailed]
  exact ⟨rfl, rfl⟩

end Bindings.ContractBindings

namespace Job

/-! ## Bindings -/

section Reading

variable {read : String → Except String (List UInt8)} {format : Bool} {job : Job}

/-- What a job gets from reading a file. -/
def contents (read : String → Except String (List UInt8)) (path : String) :
    Except GenerateError (List UInt8) :=
  (read path).mapError .io

/-- The compiled code of a job, given what reading gives. -/
def compiledCode (read : String → Except String (List UInt8)) (job : Job) :
    Except GenerateError Bytecode :=
  match job.binPath with
  | some path => do .ok (.ofBytes (← contents read path))
  | none => .ok .notProvided

/-- The bindings of a job, given what reading gives. -/
def generated (read : String → Except String (List UInt8)) (format : Bool) (job : Job) :
    Except GenerateError ContractBindings := do
  let code ← compiledCode read job
  let document ← contents read job.abiPath
  generateFromDocument (job.settings format) job.contractName document code

/-- Whether the compiled code of a job is read from its files. -/
def HasCode (read : String → Except String (List UInt8)) (job : Job) (code : Bytecode) : Prop :=
  match job.binPath with
  | none => code = .notProvided
  | some path => ∃ bytes, read path = .ok bytes ∧ code = .ofBytes bytes

/-- Whether bindings are what the files of a job give: the files are read, the interface is loaded,
and the bindings are generated from it. -/
def Generates (read : String → Except String (List UInt8)) (format : Bool) (job : Job)
    (b : ContractBindings) : Prop :=
  ∃ code, job.HasCode read code ∧ ∃ document, read job.abiPath = .ok document ∧
    ∃ abi, Abi.load false .bytes document = .ok abi ∧
      generate (job.settings format) job.contractName abi code = .ok b

/-- A job gets what is in a file if it is read. -/
theorem contents_eq_ok_iff {path : String} {bytes : List UInt8} :
    contents read path = .ok bytes ↔ read path = .ok bytes := by
  unfold contents
  cases read path <;> simp [Except.mapError]

/-- The compiled code is what the file with it holds, if there is one. -/
theorem compiledCode_eq_ok_iff {code : Bytecode} :
    compiledCode read job = .ok code ↔ job.HasCode read code := by
  unfold compiledCode HasCode
  cases job.binPath with
  | none => simp [eq_comm]
  | some path =>
    simp only [bind_eq_ok_iff, contents_eq_ok_iff, Except.ok.injEq]
    simp only [eq_comm]

/-- Bindings are generated from a document if an interface is loaded from it that they are generated
from. -/
theorem generateFromDocument_eq_ok_iff {settings : Settings} {name : String}
    {document : List UInt8} {code : Bytecode} {b : ContractBindings} :
    generateFromDocument settings name document code = .ok b ↔
      ∃ abi, Abi.load false .bytes document = .ok abi ∧
        generate settings name abi code = .ok b := by
  unfold generateFromDocument
  cases Abi.load false .bytes document <;> simp

/-- A job has bindings if its files give them. -/
theorem generated_eq_ok_iff {b : ContractBindings} :
    job.generated read format = .ok b ↔ job.Generates read format b := by
  simp only [generated, Generates, bind_eq_ok_iff, compiledCode_eq_ok_iff, contents_eq_ok_iff,
    generateFromDocument_eq_ok_iff]

end Reading

end Job

/-! ## Programs with a state -/

section Programs

variable {ε α β σ : Type} {state state' : σ}

/-- A program goes on with what its first part gives, in the state that that leaves. -/
theorem run_bind_of_run {x : StateM σ α} {f : α → StateM σ β} {a : α}
    (h : x.run state = (a, state')) : (x >>= f).run state = (f a).run state' := by
  rw [StateT.run_bind, h]
  rfl

variable {x : ExceptT ε (StateM σ) α} {f : α → ExceptT ε (StateM σ) β}

/-- A program that can fail goes on where its first part does not. -/
theorem run_bind_of_ok {a : α} (h : x.run.run state = (.ok a, state')) :
    (x >>= f).run.run state = (f a).run.run state' := by
  rw [ExceptT.run_bind]
  exact run_bind_of_run h

/-- A program that can fail ends where its first part does. -/
theorem run_bind_of_error {e : ε} (h : x.run.run state = (.error e, state')) :
    (x >>= f).run.run state = (.error e, state') := by
  rw [ExceptT.run_bind]
  exact run_bind_of_run h

/-- A first part that cannot fail does not. -/
theorem run_liftM_bind {x : StateM σ α} {a : α} (h : x.run state = (a, state')) :
    ((liftM x : ExceptT ε (StateM σ) α) >>= f).run.run state = (f a).run.run state' := by
  refine run_bind_of_ok ?_
  rw [ExceptT.run_liftM, StateT.run_map, h]
  rfl

/-- Whether a program gives a result and leaves the state as it is. -/
def Gives (x : ExceptT ε (StateM σ) α) (state : σ) (result : Except ε α) : Prop :=
  x.run.run state = (result, state)

/-- Behind a program that leaves the state as it is, another one starts from the same state. -/
theorem Gives.bind {result : Except ε α} {g : α → Except ε β} (h : Gives x state result)
    (hf : ∀ a, Gives (f a) state (g a)) : Gives (x >>= f) state (result >>= g) := by
  cases result with
  | ok a => exact (run_bind_of_ok h).trans (hf a)
  | error e => exact run_bind_of_error h

end Programs

namespace Job

/-! ## Steps on the host of a storage -/

section Steps

variable {σ : Type} (storage : Storage σ) (formatter : Formatter) (state : σ × List LogRecord)

/-- Reading a file leaves files and log alone. -/
theorem gives_readFile (path : String) :
    Gives (readFile (storage.host formatter) path) state
      (contents (storage.read state.1) path) := by
  have hread : ((storage.host formatter).read path).run state =
      (storage.read state.1 path, state) :=
    rfl
  unfold Gives readFile contents
  rw [run_liftM_bind hread]
  cases storage.read state.1 path <;> rfl

/-- Reading the compiled code leaves files and log alone. -/
theorem gives_readCode (job : Job) :
    Gives (readCode (storage.host formatter) job) state
      (compiledCode (storage.read state.1) job) := by
  unfold readCode compiledCode
  cases job.binPath with
  | none => rfl
  | some path => exact (gives_readFile storage formatter state path).bind fun _ => rfl

/-- Generating bindings leaves files and log alone. -/
theorem gives_bindings (format : Bool) (job : Job) :
    Gives (job.bindings (storage.host formatter) format) state
      (job.generated (storage.read state.1) format) := by
  refine (gives_readCode storage formatter state job).bind fun code => ?_
  refine (gives_readFile storage formatter state job.abiPath).bind fun document => ?_
  rfl

/-- Writing bindings as text asks nothing of a storage, and adds its records to the log. -/
theorem run_toSource (b : ContractBindings) :
    (b.toSource (storage.host formatter)).run state =
      (b.written formatter, state.1, state.2 ++ b.writtenLogs formatter) := by
  unfold ContractBindings.toSource
  cases hformat : b.format with
  | false =>
    obtain ⟨hwritten, hlogs⟩ := @ContractBindings.written_of_not_format formatter b hformat
    rw [hwritten, hlogs, List.append_nil]
    rfl
  | true =>
    have hanswer : ((storage.host formatter).format b.source).run state =
        (formatter b.source, state) :=
      rfl
    rw [if_neg (by decide), run_bind_of_run hanswer]
    cases hresult : formatter b.source with
    | ok formatted =>
      obtain ⟨hwritten, hlogs⟩ := ContractBindings.written_of_ok hformat hresult
      rw [hwritten, hlogs, List.append_nil]
      rfl
    | error text =>
      obtain ⟨hwritten, hlogs⟩ := ContractBindings.written_of_error hformat hresult
      rw [hwritten, hlogs]
      rfl

end Steps

/-! ## Runs -/

variable {σ : Type} {storage : Storage σ} {formatter : Formatter} {format : Bool} {job : Job}
  {files files' : σ}

/-- The records of a job whose bindings are generated and written as text. -/
def bindingsLogs (formatter : Formatter) (job : Job) (b : ContractBindings) : List LogRecord :=
  job.startLog :: bindingsLog b :: b.writtenLogs formatter

/-- What a job reports once its bindings are generated and the storage has answered. -/
def answered (formatter : Formatter) (job : Job) (b : ContractBindings) :
    Except String Unit → Report
  | .ok () =>
    ⟨job.bindingsLogs formatter b ++ [job.writtenLog],
      .ok ⟨job.outputPath b, b.written formatter⟩⟩
  | .error text => ⟨job.bindingsLogs formatter b, .error ⟨job.qualifiedName, .io text⟩⟩

/-- A run is what is done behind the record at its start. -/
theorem run_of_performNamed {logs : List LogRecord} {result : Except GenerateError Output}
    (h : (job.performNamed (storage.host formatter) format).run.run (files, [job.startLog]) =
      (result, files', logs)) :
    job.run storage formatter format files =
      (files', ⟨logs, result.mapError (⟨job.qualifiedName, ·⟩)⟩) := by
  have hstart : ((storage.host formatter).log job.startLog).run (files, []) =
      ((), files, [job.startLog]) :=
    rfl
  have hperform : (job.perform (storage.host formatter) format).run (files, []) =
      (result.mapError (⟨job.qualifiedName, ·⟩), files', logs) := by
    rw [perform, run_bind_of_run hstart, run_bind_of_run h]
    cases result <;> rfl
  rw [run, hperform]

/-- A run without bindings leaves the files alone. -/
theorem run_of_error {error : GenerateError}
    (h : job.generated (storage.read files) format = .error error) :
    job.run storage formatter format files =
      (files, ⟨[job.startLog], .error ⟨job.qualifiedName, error⟩⟩) := by
  have hbindings := gives_bindings storage formatter (files, [job.startLog]) format job
  rw [h] at hbindings
  exact run_of_performNamed (run_bind_of_error hbindings)

/-- A run with bindings ends with what the storage makes of the write of their text. -/
theorem run_of_ok {b : ContractBindings} {answer : Except String Unit}
    (h : job.generated (storage.read files) format = .ok b)
    (hwrite : storage.write files (job.outputPath b) (b.written formatter) = (files', answer)) :
    job.run storage formatter format files = (files', job.answered formatter b answer) := by
  have hbindings := gives_bindings storage formatter (files, [job.startLog]) format job
  rw [h] at hbindings
  have hlog : ((storage.host formatter).log (bindingsLog b)).run (files, [job.startLog]) =
      ((), files, [job.startLog, bindingsLog b]) :=
    rfl
  have htext := run_toSource storage formatter (files, [job.startLog, bindingsLog b]) b
  have hanswer : ((storage.host formatter).write (job.outputPath b) (b.written formatter)).run
      (files, job.bindingsLogs formatter b) = (answer, files', job.bindingsLogs formatter b) := by
    simp only [Storage.host, StateT.run_bind, StateT.run_get, pure_bind, hwrite]
    rfl
  have hnamed : (job.performNamed (storage.host formatter) format).run.run
      (files, [job.startLog]) =
        ((answer.map fun _ => ⟨job.outputPath b, b.written formatter⟩).mapError .io, files',
          (job.answered formatter b answer).logs) := by
    rw [performNamed, run_bind_of_ok hbindings, run_liftM_bind hlog, run_liftM_bind htext]
    refine (run_liftM_bind hanswer).trans ?_
    cases answer <;> rfl
  rw [run_of_performNamed hnamed]
  cases answer <;> rfl

end Job

end AbiBindings
