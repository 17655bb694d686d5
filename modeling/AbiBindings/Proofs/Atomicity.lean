import AbiBindings.Proofs.Files
import AbiBindings.Proofs.JobRuns

/-!
# Jobs write once or not at all

A job asks its storage for one write at most, and for none unless its files are read, its interface
is loaded and its bindings are generated. What it writes is the text of the bindings, or what a
formatter makes of that text. In a store a job that fails changes nothing, and a job that succeeds
changes what is under one path. Hence a file holds what was put or written under its path last,
whatever else happened to the store (`runs_atomic`).
-/

set_option autoImplicit false

namespace AbiBindings

open Bindings Traversal

/-! ## One run -/

/-- A storage that notes every write that it is asked for. -/
def Storage.noting {σ : Type} (storage : Storage σ) : Storage (σ × List Output) where
  read := fun state path => storage.read state.1 path
  write := fun state path source =>
    let (files, answer) := storage.write state.1 path source
    ((files, state.2 ++ [⟨path, source⟩]), answer)

namespace Job

variable {σ : Type} {storage : Storage σ} {formatter : Formatter} {format : Bool} {job : Job}
  {files : σ}

/-- A run generates no bindings and leaves the files alone, or it generates some and ends with what
the storage makes of their write. -/
theorem run_cases (storage : Storage σ) (formatter : Formatter) (format : Bool) (job : Job)
    (files : σ) :
    (∃ error, job.generated (storage.read files) format = .error error ∧
      job.run storage formatter format files =
        (files, ⟨[job.startLog], .error ⟨job.qualifiedName, error⟩⟩)) ∨
    ∃ b files' answer, job.generated (storage.read files) format = .ok b ∧
      storage.write files (job.outputPath b) (b.written formatter) = (files', answer) ∧
      job.run storage formatter format files = (files', job.answered formatter b answer) := by
  cases h : job.generated (storage.read files) format with
  | error error => exact Or.inl ⟨error, rfl, run_of_error h⟩
  | ok b => exact Or.inr ⟨b, _, _, rfl, rfl, run_of_ok h rfl⟩

/-- A storage that notes its writes answers as it did before, so a run ends the same; noted is the
write of the bindings, if there are any. -/
theorem run_noting (storage : Storage σ) (formatter : Formatter) (format : Bool) (job : Job)
    (files : σ) :
    (∃ error, job.generated (storage.read files) format = .error error ∧
      job.run storage.noting formatter format (files, []) =
        (((job.run storage formatter format files).1, []),
          (job.run storage formatter format files).2)) ∨
    ∃ b, job.generated (storage.read files) format = .ok b ∧
      job.run storage.noting formatter format (files, []) =
        (((job.run storage formatter format files).1,
            [⟨job.outputPath b, b.written formatter⟩]),
          (job.run storage formatter format files).2) := by
  obtain ⟨error, herror, hrun⟩ | ⟨b, files', answer, hb, hwrite, hrun⟩ :=
    run_cases storage formatter format job files
  · refine Or.inl ⟨error, herror, ?_⟩
    rw [hrun]
    exact run_of_error herror
  · have hnoted : storage.noting.write (files, []) (job.outputPath b) (b.written formatter) =
        ((files', [⟨job.outputPath b, b.written formatter⟩]), answer) := by
      simp only [Storage.noting, hwrite, List.nil_append]
    refine Or.inr ⟨b, hb, ?_⟩
    rw [hrun]
    exact run_of_ok hb hnoted

/-- A run that fails leaves the files alone, provided that a write that fails does. -/
theorem run_failure {fault : GenerationFailure}
    (h : (job.run storage formatter format files).2.result = .error fault)
    (hfailed : ∀ path source files' text,
      storage.write files path source = (files', .error text) → files' = files) :
    (job.run storage formatter format files).1 = files := by
  obtain ⟨error, -, hrun⟩ | ⟨b, files', answer, -, hwrite, hrun⟩ :=
    run_cases storage formatter format job files
  · rw [hrun]
  · rw [hrun] at h ⊢
    cases answer with
    | ok _ => cases h
    | error text => exact hfailed _ _ _ _ hwrite

/-- A run that succeeds has generated bindings from its files and written their text below the
output directory, and it leaves what that write leaves. -/
theorem run_success {output : Output}
    (h : (job.run storage formatter format files).2.result = .ok output) :
    ∃ b, job.Generates (storage.read files) format b ∧
      output.path = FilePath.join job.outputDir b.relativePath ∧
      output.source = b.written formatter ∧
      storage.write files output.path output.source =
        ((job.run storage formatter format files).1, .ok ()) := by
  obtain ⟨error, -, hrun⟩ | ⟨b, files', answer, hb, hwrite, hrun⟩ :=
    run_cases storage formatter format job files
  · rw [hrun] at h
    cases h
  · rw [hrun] at h ⊢
    cases answer with
    | error text => cases h
    | ok _ =>
      have houtput : (⟨job.outputPath b, b.written formatter⟩ : Output) = output :=
        Except.ok.inj h
      subst houtput
      -- the source stays folded: it is the whole text of the module
      refine ⟨b, generated_eq_ok_iff.1 hb, ?_, ?_, ?_⟩ <;> dsimp only
      · rfl
      · exact hwrite

/-- What a run may do to its storage: it is asked for the one write of the bindings if there are
any, and for none otherwise; a run that fails leaves the files alone, provided that a write that
fails does; and a run that succeeds ends with that write. -/
structure RunsAtomically (storage : Storage σ) (formatter : Formatter) (format : Bool) (job : Job)
    (files : σ) : Prop where
  noted :
    (job.run storage.noting formatter format (files, [])).1.1 =
        (job.run storage formatter format files).1 ∧
      (job.run storage.noting formatter format (files, [])).2 =
        (job.run storage formatter format files).2
  writes :
    (¬ (∃ b, job.Generates (storage.read files) format b) ∧
        (job.run storage.noting formatter format (files, [])).1.2 = []) ∨
      ∃ b, job.Generates (storage.read files) format b ∧
        (job.run storage.noting formatter format (files, [])).1.2 =
          [⟨job.outputPath b, b.written formatter⟩]
  failure : ∀ fault, (job.run storage formatter format files).2.result = .error fault →
    (∀ path source files' text, storage.write files path source = (files', .error text) →
      files' = files) →
    (job.run storage formatter format files).1 = files
  success : ∀ output, (job.run storage formatter format files).2.result = .ok output →
    ∃ b, job.Generates (storage.read files) format b ∧
      output.path = FilePath.join job.outputDir b.relativePath ∧
      output.source = b.written formatter ∧
      storage.write files output.path output.source =
        ((job.run storage formatter format files).1, .ok ())

/-- Every run is atomic, whatever the storage and the formatter are. -/
theorem runsAtomically (storage : Storage σ) (formatter : Formatter) (format : Bool) (job : Job)
    (files : σ) : RunsAtomically storage formatter format job files := by
  refine ⟨?_, ?_, fun _ => run_failure, fun _ => run_success⟩
  · obtain ⟨_, -, hnoting⟩ | ⟨_, -, hnoting⟩ :=
      run_noting storage formatter format job files
    · rw [hnoting]
      exact ⟨rfl, rfl⟩
    · rw [hnoting]
      exact ⟨rfl, rfl⟩
  · obtain ⟨error, herror, hnoting⟩ | ⟨b, hb, hnoting⟩ :=
      run_noting storage formatter format job files
    · refine Or.inl ⟨?_, by rw [hnoting]⟩
      rintro ⟨b, hb⟩
      rw [generated_eq_ok_iff.2 hb] at herror
      cases herror
    · exact Or.inr ⟨b, generated_eq_ok_iff.1 hb, by rw [hnoting]⟩

end Job

namespace Store

variable {formatter : Formatter} {format : Bool} {job : Job} {store store' : Store}
  {path source : String}

/-! ## One run in a store -/

/-- A write that succeeds puts the bytes of the text. -/
theorem write_ok (h : store.write path source = (store', .ok ())) :
    store' = store.put path (Text.Utf8.encode source) := by
  unfold write at h
  cases hfailure : store.writeFailure with
  | none => simpa [hfailure, eq_comm] using h
  | some text => simp [hfailure] at h

/-- A write that fails leaves the store as it is. -/
theorem write_error {text : String} (h : store.write path source = (store', .error text)) :
    store' = store := by
  unfold write at h
  cases hfailure : store.writeFailure with
  | none => simp [hfailure] at h
  | some _ =>
    simp only [hfailure, Prod.mk.injEq] at h
    exact h.1.symm

/-- A run that fails leaves the store as it is. -/
theorem run_of_fault {fault : GenerationFailure}
    (h : (job.run storage formatter format store).2.result = .error fault) :
    (job.run storage formatter format store).1 = store :=
  Job.run_failure h fun _ _ _ _ => write_error

/-- A run that succeeds puts its output into the store. -/
theorem run_of_output {output : Output}
    (h : (job.run storage formatter format store).2.result = .ok output) :
    (job.run storage formatter format store).1 =
      store.put output.path (Text.Utf8.encode output.source) := by
  obtain ⟨_, _, _, _, hwrite⟩ := Job.run_success h
  exact write_ok hwrite

/-! ## A history of steps -/

/-- The steps that happened to a store, each with the report of its job. -/
def history (formatter : Formatter) (format : Bool) (store : Store) (steps : List Step) :
    List (Step × Option Report) :=
  steps.zip ((store.steps formatter format steps).map Prod.snd)

/-- The store that a sequence of steps ends with. -/
def last (formatter : Formatter) (format : Bool) (store : Store) (steps : List Step) : Store :=
  ((store.steps formatter format steps).getLast?.map Prod.fst).getD store

/-- What a step makes of a path: the file that is under it from then on, or that there is none. A
step that leaves the path alone makes nothing of it, as does a job that fails. -/
def changeAt (path : String) : Step × Option Report → Option (Option (List UInt8))
  | (.put target data, _) => if target = path then some (some data) else none
  | (.remove target, _) => if target = path then some none else none
  | (.failWrites _, _) => none
  | (.run _, some ⟨_, .ok output⟩) =>
    if output.path = path then some (some (Text.Utf8.encode output.source)) else none
  | (.run _, _) => none

variable {report : Report}

/-- A job that fails makes nothing of any path. -/
theorem changeAt_fault {fault : GenerationFailure} (h : report.result = .error fault) :
    changeAt path (.run job, some report) = none := by
  cases report
  cases h
  rfl

/-- A job that succeeds makes its output of the path that it writes to. -/
theorem changeAt_output {output : Output} (h : report.result = .ok output) :
    changeAt path (.run job, some report) =
      if output.path = path then some (some (Text.Utf8.encode output.source)) else none := by
  cases report
  cases h
  rfl

/-- A history starts with the first step. -/
theorem history_cons (s : Step) (steps : List Step) :
    store.history formatter format (s :: steps) =
      (s, (store.step formatter format s).2) ::
        (store.step formatter format s).1.history formatter format steps :=
  rfl

/-- The store at the end is reached from the one behind the first step. -/
theorem last_cons (s : Step) (steps : List Step) :
    store.last formatter format (s :: steps) =
      (store.step formatter format s).1.last formatter format steps := by
  simp only [last, Store.steps, List.getLast?_cons, Option.map_some, Option.getD_some]
  cases ((store.step formatter format s).1.steps formatter format steps).getLast? <;> rfl

/-- After one step a path holds what the step makes of it, or what it held before. -/
theorem get?_step (s : Step) :
    (store.step formatter format s).1.get? path =
      (changeAt path (s, (store.step formatter format s).2)).getD (store.get? path) := by
  cases s with
  | put target data =>
    by_cases h : target = path
    · simp [step, changeAt, h]
    · simp [step, changeAt, h, get?_put_of_ne (Ne.symm h)]
  | remove target =>
    by_cases h : target = path
    · simp [step, changeAt, h]
    · simp [step, changeAt, h, get?_remove_of_ne (Ne.symm h)]
  | failWrites failure => exact get?_failWrites failure
  | run job =>
    show (job.run storage formatter format store).1.get? path =
      (changeAt path (.run job, some (job.run storage formatter format store).2)).getD
        (store.get? path)
    cases hresult : (job.run storage formatter format store).2.result with
    | error fault =>
      rw [run_of_fault hresult, changeAt_fault hresult]
      rfl
    | ok output =>
      rw [run_of_output hresult, changeAt_output hresult]
      by_cases h : output.path = path
      · simp [h]
      · simp [h, get?_put_of_ne (Ne.symm h)]

/-- After all steps a path holds what was made of it last. -/
theorem get?_last (steps : List Step) :
    (store.last formatter format steps).get? path =
      ((store.history formatter format steps).filterMap (changeAt path)).getLast?.getD
        (store.get? path) := by
  induction steps generalizing store with
  | nil => rfl
  | cons s steps ih =>
    rw [last_cons, history_cons, ih, get?_step]
    cases hchange : changeAt path (s, (store.step formatter format s).2) with
    | none => rw [List.filterMap_cons_none hchange, Option.getD_none]
    | some change =>
      -- what the step makes of the path counts only if nothing later does
      rw [List.filterMap_cons_some hchange, List.getLast?_cons, Option.getD_some, Option.getD_some]

end Store

/-- Jobs are atomic. Against any storage a run asks for one write at most, for none unless its files
are read, its interface is loaded and its bindings are generated, and changes no file if it fails.
What it writes is the text of the bindings, or what the formatter makes of it if that is asked for
and succeeds. In a store a run that succeeds changes what is under the path of its output, which is
the path of the bindings below the output directory, and nothing else. After any steps a path holds
what was put there by a step or by a job that succeeded since it was removed last. -/
theorem runs_atomic (formatter : Formatter) (format : Bool) :
    (∀ (σ : Type) (storage : Storage σ) (job : Job) (files : σ),
      job.RunsAtomically storage formatter format files) ∧
    (∀ (job : Job) (store : Store),
      (∀ fault, (job.run Store.storage formatter format store).2.result = .error fault →
        (job.run Store.storage formatter format store).1 = store) ∧
      ∀ output, (job.run Store.storage formatter format store).2.result = .ok output →
        (∃ b, job.Generates store.read format b ∧
          output = ⟨FilePath.join job.outputDir b.relativePath, b.written formatter⟩) ∧
        (job.run Store.storage formatter format store).1.get? output.path =
          some (Text.Utf8.encode output.source) ∧
        (∀ path, path ≠ output.path →
          (job.run Store.storage formatter format store).1.get? path = store.get? path) ∧
        (job.run Store.storage formatter format store).1.writeFailure = store.writeFailure) ∧
    ∀ (store : Store) (steps : List Store.Step) (path : String),
      (store.last formatter format steps).get? path =
        ((store.history formatter format steps).filterMap (Store.changeAt path)).getLast?.getD
          (store.get? path) := by
  refine ⟨fun _ storage job files => job.runsAtomically storage formatter format files, ?_,
    fun store steps path => Store.get?_last steps⟩
  intro job store
  refine ⟨fun fault => Store.run_of_fault, ?_⟩
  intro output houtput
  have hstore := Store.run_of_output houtput
  obtain ⟨b, hgenerates, hpath, hsource, -⟩ := Job.run_success houtput
  refine ⟨⟨b, hgenerates, ?_⟩, ?_, ?_, ?_⟩
  · rw [← hpath, ← hsource]
  · rw [hstore, Store.get?_put]
  · intro path hne
    rw [hstore, Store.get?_put_of_ne hne]
  · rw [hstore]
    rfl

/-- The interface of a contract that only takes payments. -/
def escrowDocument : List UInt8 :=
  Text.Utf8.encode "[\x7b\"type\":\"fallback\"\x7d]"

/-- The job of the escrow contract, without compiled code. -/
def escrowJob : Job :=
  ⟨"abi/escrow.abi", none, "gen", "demo.bank", .native⟩

/-- A store with the interface of the escrow contract. -/
def escrowStore : Store :=
  Store.empty.put "abi/escrow.abi" escrowDocument

/-- The formatter where none is installed. -/
def missingFormatter : Formatter :=
  fun _ => .error "No such file or directory (os error 2)"

/-- The job of the escrow contract puts its output next to its interface, and if the store refuses
to write, it leaves what it wrote before. The output is to be formatted, but it cannot be. -/
theorem runs_atomic_escrow :
    ∃ output,
      (escrowJob.run Store.storage missingFormatter true escrowStore).2.result = .ok output ∧
      (escrowJob.run Store.storage missingFormatter true escrowStore).1.get?
        "gen/demo/bank/escrow.rs" = some (Text.Utf8.encode output.source) ∧
      (escrowJob.run Store.storage missingFormatter true escrowStore).1.get? "abi/escrow.abi" =
        some escrowDocument ∧
      (escrowStore.last missingFormatter true
          [.run escrowJob, .failWrites (some "disk full"), .run escrowJob]).get?
            "gen/demo/bank/escrow.rs" = some (Text.Utf8.encode output.source) := by
  obtain ⟨-, hstore, hlast⟩ := runs_atomic missingFormatter true
  have hpath :
      (escrowJob.run Store.storage missingFormatter true escrowStore).2.result.toOption.map
        Output.path = some "gen/demo/bank/escrow.rs" := by
    decide +kernel
  cases hresult : (escrowJob.run Store.storage missingFormatter true escrowStore).2.result with
  | error fault =>
    rw [hresult] at hpath
    cases hpath
  | ok output =>
    rw [hresult] at hpath
    have hpath : output.path = "gen/demo/bank/escrow.rs" := Option.some.inj hpath
    obtain ⟨-, hwritten, hothers, -⟩ := (hstore escrowJob escrowStore).2 output hresult
    rw [hpath] at hwritten hothers
    refine ⟨output, rfl, hwritten, ?_, ?_⟩
    · rw [hothers _ (by decide)]
      rfl
    · have hrefused : ∃ fault, (escrowJob.run Store.storage missingFormatter true
          ((escrowJob.run Store.storage missingFormatter true escrowStore).1.failWrites
            (some "disk full"))).2.result = .error fault :=
        exists_error_of_not_ok (mt isOk_iff.2 (by decide +kernel))
      obtain ⟨fault, hrefused⟩ := hrefused
      rw [hlast]
      simp only [Store.history_cons, Store.step]
      rw [List.filterMap_cons_some ((Store.changeAt_output hresult).trans (if_pos hpath)),
        List.filterMap_cons_none rfl, List.filterMap_cons_none (Store.changeAt_fault hrefused)]
      rfl

end AbiBindings
