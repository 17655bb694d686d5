import AbiBindings.Proofs.Atomicity
import AbiBindings.Proofs.Generation

/-!
# Jobs are repeatable and independent

A run reads the input files of its job and writes under one path, which the job determines without
the contents of any file. So a job whose output is not among its own inputs may be run again without
a change, and two jobs neither of which writes what the other reads or writes may be run in either
order (`runs_repeat_and_commute`).
-/

set_option autoImplicit false

namespace AbiBindings

open Bindings Traversal

/-! ## Where a job writes -/

/-- The path of the output for an interface file with a stem: below the output directory there is a
directory for each segment of the package, and in the last one the module. -/
def targetPath (outputDir package stem : String) : String :=
  FilePath.join outputDir
    (ContractBindings.pathOf package (Naming.snakeName (Naming.capitalize stem)))

namespace Job

/-- The path that a job writes to. -/
def target (job : Job) : String :=
  targetPath job.outputDir job.package (FilePath.stem job.abiPath)

/-- The paths that a job reads from. -/
def inputs (job : Job) : List String :=
  job.abiPath :: job.binPath.toList

variable {σ : Type} {storage : Storage σ} {files : σ} {formatter : Formatter} {format : Bool}
  {job : Job}

/-- The path of generated bindings is the target of the job. -/
theorem outputPath_eq_target {read : String → Except String (List UInt8)} {b : ContractBindings}
    (h : job.Generates read format b) : job.outputPath b = job.target := by
  obtain ⟨code, -, document, -, abi, -, hgenerate⟩ := h
  obtain ⟨setup, _, _, _, hsetup, -, -, -, -, rfl⟩ := generate_eq_ok hgenerate
  have hmodule : Naming.snakeName job.contractName = setup.moduleName :=
    Except.ok.inj (setup_eq_ok hsetup).moduleName
  rw [outputPath, target, targetPath, ← contractName, hmodule]
  rfl

/-- A run that succeeds writes to the target of its job. -/
theorem path_eq_target {output : Output}
    (h : (job.run storage formatter format files).2.result = .ok output) :
    output.path = job.target := by
  obtain ⟨b, hgenerates, hpath, -⟩ := run_success h
  exact hpath.trans (outputPath_eq_target hgenerates)

/-- Whatever becomes of it, a write that a run asks for is one to the target of the job. -/
theorem noted_eq_target {output : Output}
    (h : output ∈ (job.run storage.noting formatter format (files, [])).1.2) :
    output.path = job.target := by
  obtain ⟨-, hnone⟩ | ⟨b, hgenerates, hone⟩ :=
    (job.runsAtomically storage formatter format files).writes
  · rw [hnone] at h
    cases h
  · rw [hone, List.mem_singleton] at h
    rw [h]
    -- the source beside the path stays folded
    dsimp only
    exact outputPath_eq_target hgenerates

/-! ## What a run depends on -/

variable {read read' : String → Except String (List UInt8)}

/-- The compiled code depends on what is read from the inputs of the job alone. -/
theorem compiledCode_congr (h : ∀ path ∈ job.inputs, read path = read' path) :
    compiledCode read job = compiledCode read' job := by
  unfold compiledCode
  cases hbin : job.binPath with
  | none => rfl
  | some path =>
    have hpath : path ∈ job.inputs := by
      simp [inputs, hbin]
    simp only [contents, h path hpath]

/-- Bindings depend on what is read from the inputs of the job alone. -/
theorem generated_congr (h : ∀ path ∈ job.inputs, read path = read' path) :
    job.generated read format = job.generated read' format := by
  have hcode := compiledCode_congr h
  have habi : read job.abiPath = read' job.abiPath := h _ List.mem_cons_self
  rw [generated, generated, hcode]
  simp only [contents, habi]

/-- The report of a run with bindings is settled by the answer of the storage. -/
theorem report_of_ok {b : ContractBindings}
    (h : job.generated (storage.read files) format = .ok b) :
    (job.run storage formatter format files).2 =
      job.answered formatter b
        (storage.write files (job.outputPath b) (b.written formatter)).2 := by
  rw [run_of_ok h rfl]

end Job

namespace Store

variable {formatter : Formatter} {format : Bool} {job : Job} {store : Store}

/-- The store after a run that gave a report. -/
def receive (store : Store) (report : Report) : Store :=
  match report.result with
  | .ok output => store.put output.path (Text.Utf8.encode output.source)
  | .error _ => store

/-- A store receives the output of a run that succeeded. -/
theorem receive_of_ok {report : Report} {output : Output} (h : report.result = .ok output) :
    store.receive report = store.put output.path (Text.Utf8.encode output.source) := by
  rw [receive, h]

/-- A store receives nothing from a run that failed. -/
theorem receive_of_error {report : Report} {fault : GenerationFailure}
    (h : report.result = .error fault) : store.receive report = store := by
  rw [receive, h]

/-- What a run leaves behind is told by its report. -/
theorem run_eq_receive :
    (job.run storage formatter format store).1 =
      store.receive (job.run storage formatter format store).2 := by
  cases h : (job.run storage formatter format store).2.result with
  | error fault => rw [receive_of_error h, run_of_fault h]
  | ok output => rw [receive_of_ok h, run_of_output h]

/-- Whether a write succeeds depends neither on the files nor on what is written. -/
theorem answer_congr {first second : Store} {path source : String}
    (h : first.writeFailure = second.writeFailure) :
    (first.write path source).2 = (second.write path source).2 := by
  rw [write, write, h]
  cases second.writeFailure <;> rfl

/-- A run reports the same on stores that agree on its inputs and on whether they may be written. -/
theorem report_congr {first second : Store}
    (hinputs : ∀ path ∈ job.inputs, first.get? path = second.get? path)
    (hfailure : first.writeFailure = second.writeFailure) :
    (job.run storage formatter format first).2 = (job.run storage formatter format second).2 := by
  have hread : ∀ path ∈ job.inputs, storage.read first path = storage.read second path :=
    fun path hpath => read_congr (hinputs path hpath)
  have hgenerated : job.generated (storage.read first) format =
      job.generated (storage.read second) format := Job.generated_congr hread
  cases hfirst : job.generated (storage.read first) format with
  | error error =>
    have hsecond := hgenerated.symm.trans hfirst
    rw [Job.run_of_error hfirst, Job.run_of_error hsecond]
  | ok b =>
    have hsecond := hgenerated.symm.trans hfirst
    have hanswer : (storage.write first (job.outputPath b) (b.written formatter)).2 =
        (storage.write second (job.outputPath b) (b.written formatter)).2 :=
      answer_congr hfailure
    rw [Job.report_of_ok hfirst, Job.report_of_ok hsecond, hanswer]

/-! ## What a run leaves behind -/

/-- A run does not change whether a store may be written. -/
theorem writeFailure_receive (report : Report) :
    (store.receive report).writeFailure = store.writeFailure := by
  cases h : report.result with
  | error fault => rw [receive_of_error h]
  | ok output =>
    rw [receive_of_ok h]
    rfl

/-- A run leaves every path alone except the target of its job. -/
theorem get?_receive_run {before : Store} {path : String} (h : path ≠ job.target) :
    (store.receive (job.run storage formatter format before).2).get? path = store.get? path := by
  cases hresult : (job.run storage formatter format before).2.result with
  | error fault => rw [receive_of_error hresult]
  | ok output =>
    have hpath := Job.path_eq_target hresult
    rw [receive_of_ok hresult, hpath, get?_put_of_ne h]

/-- Receiving a report twice is receiving it once. -/
theorem receive_receive (report : Report) :
    (store.receive report).receive report = store.receive report := by
  cases h : report.result with
  | error fault => rw [receive_of_error h, receive_of_error h]
  | ok output => rw [receive_of_ok h, receive_of_ok h, put_put]

/-- Reports on different paths may be received in either order. -/
theorem receive_comm {first second : Report}
    (h : ∀ output output', first.result = .ok output → second.result = .ok output' →
      output.path ≠ output'.path) :
    (store.receive first).receive second = (store.receive second).receive first := by
  cases hfirst : first.result with
  | error fault => rw [receive_of_error hfirst, receive_of_error hfirst]
  | ok output =>
    cases hsecond : second.result with
    | error fault => rw [receive_of_error hsecond, receive_of_error hsecond]
    | ok output' =>
      have hne := h output output' hfirst hsecond
      rw [receive_of_ok hfirst, receive_of_ok hsecond, receive_of_ok hsecond,
        receive_of_ok hfirst, put_comm hne.symm]

/-! ## Runs one after the other -/

/-- A job whose target no other job reads reports the same before and behind it. -/
theorem report_after {other : Job} (h : other.target ∉ job.inputs) :
    (job.run storage formatter format (other.run storage formatter format store).1).2 =
      (job.run storage formatter format store).2 := by
  apply report_congr
  · intro path hpath
    have hne : path ≠ other.target := fun heq => h (heq ▸ hpath)
    rw [run_eq_receive, get?_receive_run hne]
  · rw [run_eq_receive, writeFailure_receive]

/-- Running a job that does not read its own output again changes nothing. -/
theorem run_again (h : job.target ∉ job.inputs) :
    job.run storage formatter format (job.run storage formatter format store).1 =
      job.run storage formatter format store := by
  have hreport : (job.run storage formatter format (job.run storage formatter format store).1).2 =
      (job.run storage formatter format store).2 := report_after h
  apply Prod.ext
  · rw [run_eq_receive, hreport, run_eq_receive, receive_receive]
  · exact hreport

/-- Jobs that write where the other neither reads nor writes may be run in either order. -/
theorem run_comm {first second : Job} (hfirst : first.target ∉ second.inputs)
    (hsecond : second.target ∉ first.inputs) (htargets : first.target ≠ second.target) :
    (second.run storage formatter format (first.run storage formatter format store).1).1 =
      (first.run storage formatter format (second.run storage formatter format store).1).1 := by
  have hone : (second.run storage formatter format (first.run storage formatter format store).1).1 =
      (store.receive (first.run storage formatter format store).2).receive
        (second.run storage formatter format store).2 := by
    rw [run_eq_receive, report_after hfirst, run_eq_receive]
  have htwo : (first.run storage formatter format (second.run storage formatter format store).1).1 =
      (store.receive (second.run storage formatter format store).2).receive
        (first.run storage formatter format store).2 := by
    rw [run_eq_receive, report_after hsecond, run_eq_receive]
  rw [hone, htwo]
  apply receive_comm
  intro output output' houtput houtput'
  rw [Job.path_eq_target houtput, Job.path_eq_target houtput']
  exact htargets

end Store

/-- Jobs are repeatable and independent, with any formatter that is a function of the text that it
is given. If a run succeeds and its output is under none of the paths that the job reads, the same
job may be run again: it reports the same and leaves the store as it is. Two jobs neither of which
writes to a path that the other reads or writes may be run in either order: each reports what it
reports alone, and the stores at the end are the same. And where a job writes or tries to write is
determined by its output directory, its package and the stem of its interface file. -/
theorem runs_repeat_and_commute (formatter : Formatter) (format : Bool) :
    (∀ (job : Job) (store : Store) (output : Output),
      (job.run Store.storage formatter format store).2.result = .ok output →
      output.path ≠ job.abiPath → some output.path ≠ job.binPath →
      job.run Store.storage formatter format (job.run Store.storage formatter format store).1 =
        job.run Store.storage formatter format store) ∧
    (∀ (first second : Job) (store : Store), first.target ∉ second.inputs →
      second.target ∉ first.inputs → first.target ≠ second.target →
      (second.run Store.storage formatter format
          (first.run Store.storage formatter format store).1).2 =
        (second.run Store.storage formatter format store).2 ∧
      (first.run Store.storage formatter format
          (second.run Store.storage formatter format store).1).2 =
        (first.run Store.storage formatter format store).2 ∧
      (second.run Store.storage formatter format
          (first.run Store.storage formatter format store).1).1 =
        (first.run Store.storage formatter format
          (second.run Store.storage formatter format store).1).1) ∧
    ∀ (σ : Type) (storage : Storage σ) (job : Job) (files : σ) (output : Output),
      (job.run storage formatter format files).2.result = .ok output ∨
        output ∈ (job.run storage.noting formatter format (files, [])).1.2 →
      output.path = targetPath job.outputDir job.package (FilePath.stem job.abiPath) := by
  refine ⟨?_, ?_, fun _ _ _ _ _ h => h.elim Job.path_eq_target Job.noted_eq_target⟩
  · intro job store output houtput habi hbin
    have htarget := Job.path_eq_target houtput
    have hunread : job.target ∉ job.inputs := by
      rw [← htarget, Job.inputs, List.mem_cons, not_or]
      exact ⟨habi, fun hmem => hbin (Option.mem_toList.1 hmem).symm⟩
    exact Store.run_again hunread
  · intro first second store hfirst hsecond htargets
    exact ⟨Store.report_after hfirst, Store.report_after hsecond,
      Store.run_comm hfirst hsecond htargets⟩

/-- A job for a contract whose compiled code is missing. -/
def tollJob : Job :=
  ⟨"abi/escrow.abi", some "abi/toll.bin", "out/", "demo", .native⟩

/-- The job of the escrow contract may be run again, and before or behind one that fails. Its output
is to be formatted, but it cannot be. -/
theorem runs_repeat_and_commute_escrow :
    ∃ output,
      (escrowJob.run Store.storage missingFormatter true escrowStore).2.result = .ok output ∧
      output.path = "gen/demo/bank/escrow.rs" ∧
      escrowJob.run Store.storage missingFormatter true
          (escrowJob.run Store.storage missingFormatter true escrowStore).1 =
        escrowJob.run Store.storage missingFormatter true escrowStore ∧
      (tollJob.run Store.storage missingFormatter true
          (escrowJob.run Store.storage missingFormatter true escrowStore).1).1 =
        (escrowJob.run Store.storage missingFormatter true
          (tollJob.run Store.storage missingFormatter true escrowStore).1).1 := by
  obtain ⟨hagain, hcomm, htarget⟩ := runs_repeat_and_commute missingFormatter true
  have hrun : ∃ output,
      (escrowJob.run Store.storage missingFormatter true escrowStore).2.result = .ok output :=
    isOk_iff.1 (by decide +kernel)
  obtain ⟨output, houtput⟩ := hrun
  have hpath : output.path = "gen/demo/bank/escrow.rs" :=
    (htarget _ _ _ _ _ (Or.inl houtput)).trans (by decide +kernel)
  refine ⟨output, houtput, hpath, ?_, ?_⟩
  · apply hagain escrowJob escrowStore output houtput
    · rw [hpath]
      decide
    · exact Option.some_ne_none _
  · exact (hcomm escrowJob tollJob escrowStore (by decide +kernel) (by decide +kernel)
      (by decide +kernel)).2.2

end AbiBindings
