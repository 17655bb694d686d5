import Mathlib.Data.List.Perm.Basic
import AbiBindings.CommandLine.Run
import AbiBindings.Proofs.SpelledOptions
import AbiBindings.Proofs.Traversal

/-!
# Order and spelling of options

What a user chooses can be told to the program in many ways: in any order of the options, and each
option in any of its spellings. All of them make the same job
(`options_in_any_order_and_spelling`). What was recorded is looked up by keys, and since no key is
recorded twice, its order does not matter (`lookup_eq_of_perm`).

For options that must not be given together it does not matter what else is among the arguments. A
reading that succeeds has settled exactly the keys that the arguments name, and all of them are
different (`reads_readAll`).
-/

set_option autoImplicit false

namespace AbiBindings.CommandLine

open Bindings Traversal

/-! ## What a user chooses -/

/-- The flag for a representation of integers. -/
def Flag.ofPolicy : TypePolicy → Flag
  | .native => .nativeTypes
  | .exact => .solidityTypes

/-- What a user chooses: the values of the options, whether a representation of integers is asked
for, and whether the output is left as it is. -/
structure Choices where
  abiFile : String
  outputDir : String
  package : String
  binFile : Option String
  policy : Option TypePolicy
  noFormat : Bool

namespace Choices

/-- The options that tell what a user chooses. -/
def options (c : Choices) : List GivenOption :=
  [.value .abiFile c.abiFile, .value .outputDir c.outputDir, .value .package c.package] ++
    (c.binFile.map fun text => .value .binFile text).toList ++
    (c.policy.map fun policy => .flag (.ofPolicy policy)).toList ++
    if c.noFormat then [.flag .noFormat] else []

/-- The request of what a user chooses. Integers are native if nothing else is asked for. -/
def request (c : Choices) : Request where
  job := {
    abiPath := c.abiFile
    binPath := c.binFile
    outputDir := c.outputDir
    package := c.package
    policy := c.policy.getD .native }
  format := !c.noFormat

end Choices

/-! ## Jobs and faults -/

/-- The outcome of a run that does a job. -/
def Outcome.ofReport {σ : Type} : σ × Report → Outcome σ
  | (files, ⟨logs, .ok output⟩) =>
    ⟨logs ++ [⟨.debug, "generated " ++ output.path⟩], .succeeded output, files⟩
  | (files, ⟨logs, .error failure⟩) => ⟨logs, .failed failure, files⟩

/-- Whether arguments make a job: it is what the program does, whatever the files and the formatter
are. -/
def MakeJob (arguments : List String) (r : Request) : Prop :=
  request arguments = .ok r ∧
    ∀ {σ : Type} (storage : Storage σ) (formatter : Formatter) (files : σ),
      run storage formatter arguments files =
        .ofReport (r.job.run storage formatter r.format files)

/-- Whether arguments make no job for a reason: nothing is done but to tell it. -/
def MakeNoJob (arguments : List String) (fault : UsageFault) : Prop :=
  request arguments = .error fault ∧
    ∀ {σ : Type} (storage : Storage σ) (formatter : Formatter) (files : σ),
      run storage formatter arguments files = ⟨[], .usage fault, files⟩

/-- Arguments that ask for a job make it, on any storage. -/
theorem makeJob_of_request {arguments : List String} {r : Request}
    (h : request arguments = .ok r) : MakeJob arguments r := by
  refine ⟨h, fun storage formatter files => ?_⟩
  rw [run, perform, h]
  dsimp only
  rw [StateT.run_bind, Job.run]
  rcases (r.job.perform (storage.host formatter) r.format).run (files, []) with
    ⟨output | failure, files', logs⟩ <;> rfl

/-- Arguments that ask for no job make none, on any storage. -/
theorem makeNoJob_of_request {arguments : List String} {fault : UsageFault}
    (h : request arguments = .error fault) : MakeNoJob arguments fault := by
  refine ⟨h, fun storage formatter files => ?_⟩
  rw [run, perform, h]
  rfl

/-- Behind the command, the options are read. -/
theorem request_generate (arguments : List String) :
    request ("generate" :: arguments) = generateRequest arguments := by
  rfl

/-! ## The order does not matter -/

/-- What is found under a key does not depend on the order if all keys are different. -/
theorem lookup_eq_of_perm {α β : Type} [DecidableEq α] {l l' : List (α × β)} (h : l.Perm l')
    (hnodup : (l.map Prod.fst).Nodup) (key : α) : l.lookup key = l'.lookup key := by
  induction h with
  | nil => rfl
  | cons e _ ih => rw [List.lookup_cons, List.lookup_cons, ih (List.nodup_cons.1 hnodup).2]
  | swap e e' l =>
    obtain ⟨k, v⟩ := e
    obtain ⟨k', v'⟩ := e'
    have hne : k ≠ k' := fun h => (List.nodup_cons.1 hnodup).1 (by simp [h])
    simp only [List.lookup_cons]
    by_cases hkey : key = k
    · simp [hkey, beq_false_of_ne hne]
    · simp [beq_false_of_ne hkey]
  | trans h₁ _ ih ih' => exact (ih hnodup).trans (ih' ((h₁.map Prod.fst).nodup_iff.1 hnodup))

/-- A request depends on what is found under the keys only. -/
theorem Progress.request_congr {p q : Progress}
    (h : ∀ key, p.given.lookup key = q.given.lookup key) : p.request = q.request := by
  have hhas : p.has = q.has := by
    funext key
    rw [has, has, h]
  have hrequired : p.required = q.required := by
    funext key
    rw [required, required, h]
  rw [request, request, hhas, hrequired, h]

namespace Choices

/-- The options of choices have different keys. -/
theorem nodup_keys (c : Choices) : (c.options.map GivenOption.key).Nodup := by
  obtain ⟨abiFile, outputDir, package, _ | binFile, _ | _ | _, _ | _⟩ := c <;>
    exact of_decide_eq_true rfl

/-- The options of choices ask for the request of these choices. -/
theorem request_options (c : Choices) :
    Progress.request ⟨c.options.map GivenOption.entry, none⟩ = .ok c.request := by
  obtain ⟨abiFile, outputDir, package, _ | binFile, _ | _ | _, _ | _⟩ := c <;> rfl

/-- A job represents integers exactly if and only if the option for that is given. -/
theorem exact_iff (c : Choices) :
    c.request.job.policy = .exact ↔ .flag .solidityTypes ∈ c.options := by
  obtain ⟨abiFile, outputDir, package, _ | binFile, _ | _ | _, _ | _⟩ := c <;>
    simp [request, options, Flag.ofPolicy]

/-- The request of what a user chooses does not depend on the order of the options or on the way
that they are spelled. -/
theorem request_of_spelled (c : Choices) {order : List GivenOption} {arguments : List String}
    (hproper : ∀ o ∈ c.options, o.IsProper) (horder : order.Perm c.options)
    (h : Spelled order arguments) :
    CommandLine.request ("generate" :: arguments) = .ok c.request := by
  have hnodup : (order.map GivenOption.key).Nodup :=
    (horder.map GivenOption.key).nodup_iff.2 c.nodup_keys
  have hlookup (key : OptionKey) : (order.map GivenOption.entry).lookup key =
      (c.options.map GivenOption.entry).lookup key := by
    refine lookup_eq_of_perm (horder.map GivenOption.entry) ?_ key
    rwa [List.map_map]
  rw [request_generate, h.generateRequest_eq fun o ho => hproper o (horder.subset ho),
    if_pos hnodup, ← c.request_options]
  exact Progress.request_congr hlookup

end Choices

/-! ## Options that exclude each other -/

/-- The key of the option that an argument names. -/
def Argument.key? : Argument → Option OptionKey
  | .long word _ => longNames.lookup word
  | .short (letter :: _) => shortNames.lookup letter
  | _ => none

/-- The keys that arguments name, in their order. -/
def namedKeys (arguments : List String) : List OptionKey :=
  arguments.filterMap fun s => (Argument.ofString s).key?

/-- The keys that arguments name start with that of the first one. -/
theorem namedKeys_cons (s : String) (rest : List String) :
    namedKeys (s :: rest) = (Argument.ofString s).key?.toList ++ namedKeys rest := by
  unfold namedKeys
  rw [List.filterMap_cons]
  cases (Argument.ofString s).key? <;> rfl

namespace ValueOption

/-- The word of an option names it. -/
theorem key?_word (o : ValueOption) (value : Option String) :
    (Argument.long o.word value).key? = some o.key := by
  cases o <;> rfl

/-- The letter of an option names it. -/
theorem key?_letter (o : ValueOption) (cs : List Char) :
    (Argument.short (o.letter.toList ++ cs)).key? = some o.key := by
  cases o <;> rfl

end ValueOption

/-- The first argument of a spelling names the option, whatever the value is. -/
theorem GivenOption.exists_namedKeys_eq {o : GivenOption} {spelling : List String}
    (h : spelling ∈ o.spellings) : ∃ keys, namedKeys spelling = o.key :: keys := by
  have hfirst {s : String} {rest : List String} {argument : Argument}
      (hs : Argument.ofString s = argument) (hkey : argument.key? = some o.key) :
      ∃ keys, namedKeys (s :: rest) = o.key :: keys :=
    ⟨namedKeys rest, by rw [namedKeys_cons, hs, hkey]; rfl⟩
  cases o with
  | value o text =>
    simp only [spellings, ValueOption.spellings, List.mem_cons, List.not_mem_nil, or_false] at h
    rcases h with rfl | rfl | rfl | rfl | rfl
    · exact hfirst (o.ofString_letter text) (o.key?_letter _)
    · exact hfirst (o.ofString_letter_equals text) (o.key?_letter _)
    · exact hfirst o.ofString_letter_alone (o.key?_letter [])
    · exact hfirst (ofString_word o.word_clear.1 o.word_clear.2) (o.key?_word none)
    · exact hfirst (ofString_word_value o.word_clear.2) (o.key?_word (some text))
  | flag f =>
    obtain ⟨word, hword, rfl⟩ := List.mem_map.1 h
    obtain ⟨hempty, hequals⟩ := f.words_clear word hword
    exact hfirst (ofString_word hempty hequals) (f.lookup_words word hword)

namespace Progress

/-- The keys of the options that are settled, and of the one that is pending. -/
def keys (p : Progress) : List OptionKey :=
  p.givenKeys ++ (p.pending.map Prod.fst).toList

/-- Whether a reading has led from one state to another by the options under some keys. No key is
settled twice. -/
structure Reads (p q : Progress) (named : List OptionKey) : Prop where
  keys : q.keys = p.keys ++ named
  nodup : p.givenKeys.Nodup → q.givenKeys.Nodup

/-- Options may be read one after the other. -/
theorem Reads.trans {p q r : Progress} {named named' : List OptionKey} (h : p.Reads q named)
    (h' : q.Reads r named') : p.Reads r (named ++ named') where
  keys := by rw [h'.keys, h.keys, List.append_assoc]
  nodup hp := h'.nodup (h.nodup hp)

/-- Recording a value reads its option. -/
theorem reads_record {p q : Progress} {key : OptionKey} {value : String} (hp : p.pending = none)
    (h : p.record key value = .ok q) : p.Reads q [key] := by
  unfold record at h
  split_ifs at h with hgiven
  cases h
  have hkey : key ∉ p.givenKeys := isSome_lookup_iff.not.1 hgiven
  constructor
  · simp [keys, givenKeys, hp]
  · intro hnodup
    simpa [givenKeys] using List.nodup_append_comm.1 (List.nodup_cons.2 ⟨hkey, hnodup⟩)

/-- Settling what is pending reads no further option. -/
theorem reads_settle {p q : Progress} (h : p.settle = .ok q) : p.Reads q [] := by
  obtain ⟨given, _ | ⟨key, _ | value⟩⟩ := p
  · cases h
    exact ⟨by simp, id⟩
  · cases h
  · have hrecord := reads_record (p := ⟨given, none⟩) rfl h
    exact ⟨by simpa [keys, givenKeys] using hrecord.keys, hrecord.nodup⟩

/-- An option with its value is read. -/
theorem reads_withValue {p q : Progress} {key : OptionKey} {value : String}
    (h : p.withValue key value = .ok q) : p.Reads q [key] := by
  obtain ⟨p', hsettle, hrecord⟩ := bind_eq_ok_iff.1 h
  exact (reads_settle hsettle).trans (reads_record (pending_of_settle hsettle) hrecord)

/-- An option that waits for its value is read. -/
theorem reads_awaitValue {p q : Progress} {key : OptionKey} (h : p.awaitValue key = .ok q) :
    p.Reads q [key] := by
  obtain ⟨p', hsettle, hawait⟩ := bind_eq_ok_iff.1 h
  have hwait : p'.Reads q [key] := by
    cases hawait
    exact ⟨by simp [keys, givenKeys, pending_of_settle hsettle], id⟩
  exact (reads_settle hsettle).trans hwait

/-- A flag is read only if it does not ask for help. -/
theorem reads_flag {p q : Progress} {key : OptionKey} (h : p.flag key = .ok q) :
    p.Reads q [key] ∧ key ≠ .help := by
  obtain ⟨p', hsettle, hflag⟩ := bind_eq_ok_iff.1 h
  split_ifs at hflag with hhelp
  exact ⟨(reads_settle hsettle).trans (reads_record (pending_of_settle hsettle) hflag), hhelp⟩

/-- An argument with a word is read as the option that it names. -/
theorem reads_long {p q : Progress} {word : String} {value : Option String}
    (h : p.long word value = .ok q) : p.Reads q (Argument.long word value).key?.toList := by
  unfold long at h
  rw [Argument.key?]
  cases hlookup : longNames.lookup word with
  | none =>
    rw [hlookup] at h
    cases h
  | some key =>
    simp only [hlookup] at h
    split at h
    · exact reads_withValue h
    · exact reads_awaitValue h
    · cases h
    · exact (reads_flag h).1

/-- The only letter without a value asks for help. -/
theorem eq_help_of_shortNames {letter : Char} {key : OptionKey}
    (h : shortNames.lookup letter = some key) (hkey : ¬ key.takesValue) : key = .help := by
  have hall : ∀ e ∈ shortNames, e.2.takesValue ∨ e.2 = .help := by decide
  obtain ⟨before, after, hsplit, -⟩ := List.lookup_eq_some_iff.1 h
  exact (hall (letter, key) (by simp [hsplit])).resolve_left hkey

/-- Letters are read only if the first stands for an option with a value: the only other one asks
for help. -/
theorem reads_short {p q : Progress} {letters : List Char} (h : p.short letters = .ok q) :
    p.Reads q (Argument.short letters).key?.toList := by
  cases letters with
  | nil =>
    cases h
    exact ⟨by simp [Argument.key?], id⟩
  | cons letter rest =>
    unfold short at h
    rw [Argument.key?]
    cases hlookup : shortNames.lookup letter with
    | none =>
      rw [hlookup] at h
      cases h
    | some key =>
      simp only [hlookup] at h
      split_ifs at h with htakes
      · split at h
        · exact reads_awaitValue h
        · exact reads_withValue h
        · exact reads_withValue h
      · obtain ⟨p', hflag, -⟩ := bind_eq_ok_iff.1 h
        exact absurd (eq_help_of_shortNames hlookup htakes) (reads_flag hflag).2

/-- An argument that is no option is read as the value of one, or as none. -/
theorem reads_plain {p q : Progress} {text : String} (h : p.plain text = .ok q) :
    p.Reads q (Argument.plain text).key?.toList := by
  obtain ⟨given, _ | ⟨key, _ | value⟩⟩ := p
  · cases h
  · cases h
    exact ⟨by simp [keys, givenKeys, Argument.key?], id⟩
  · cases h

/-- A reading that succeeds reads the options that the arguments name, in their order, and settles
all of them. -/
theorem reads_readAll {p q : Progress} {arguments : List String}
    (h : p.readAll arguments = .ok q) : p.Reads q (namedKeys arguments) ∧ q.pending = none := by
  induction arguments generalizing p with
  | nil => exact ⟨reads_settle h, pending_of_settle h⟩
  | cons s rest ih =>
    rw [namedKeys_cons]
    have hstep {p' : Progress} (hfirst : p.Reads p' (Argument.ofString s).key?.toList)
        (hrest : p'.readAll rest = .ok q) :
        p.Reads q ((Argument.ofString s).key?.toList ++ namedKeys rest) ∧ q.pending = none :=
      ⟨hfirst.trans (ih hrest).1, (ih hrest).2⟩
    unfold readAll at h
    split at h
    · -- the end of the options: nothing stands behind it
      split_ifs at h with hempty
      rename_i harg
      rw [List.isEmpty_iff.1 hempty, harg]
      exact ⟨reads_settle h, pending_of_settle h⟩
    all_goals
      rename_i harg
      obtain ⟨p', hfirst, hrest⟩ := bind_eq_ok_iff.1 h
      rw [harg] at hstep ⊢
    · exact hstep (reads_long hfirst) hrest
    · exact hstep (reads_short hfirst) hrest
    · exact hstep (reads_plain hfirst) hrest

end Progress

/-- Both representations of integers together are a conflict, before anything that is missing. -/
theorem Progress.request_of_both {p : Progress} (hnative : .nativeTypes ∈ p.givenKeys)
    (hexact : .solidityTypes ∈ p.givenKeys) : p.request = .error .conflict := by
  rw [request, has, has, isSome_lookup_iff.2 hnative, isSome_lookup_iff.2 hexact]
  rfl

/-- The keys of the options behind a request: the arguments name each once, and not both
representations of integers. -/
theorem keys_of_generateRequest {arguments : List String} {r : Request}
    (h : generateRequest arguments = .ok r) : (namedKeys arguments).Nodup ∧
      ¬ (OptionKey.nativeTypes ∈ namedKeys arguments ∧
        OptionKey.solidityTypes ∈ namedKeys arguments) := by
  obtain ⟨q, hread, hrequest⟩ := bind_eq_ok_iff.1 h
  obtain ⟨hreads, hpending⟩ := Progress.reads_readAll hread
  have hkeys : q.givenKeys = namedKeys arguments := by
    have hkeys := hreads.keys
    simpa [Progress.keys, Progress.givenKeys, Progress.start, hpending] using hkeys
  refine ⟨hkeys ▸ hreads.nodup List.nodup_nil, fun hboth => ?_⟩
  rw [← hkeys] at hboth
  rw [Progress.request_of_both hboth.1 hboth.2] at hrequest
  cases hrequest

/-- Arguments that give two options, one of which excludes the other, make no job, whatever else is
among them and whatever the values are. -/
theorem GivenOption.Excludes.exists_makeNoJob {o o' : GivenOption} (h : o.Excludes o')
    {spelling spelling' : List String} (ho : spelling ∈ o.spellings)
    (ho' : spelling' ∈ o'.spellings) (before between behind : List String) :
    ∃ fault,
      MakeNoJob ("generate" :: (before ++ spelling ++ between ++ spelling' ++ behind)) fault := by
  obtain ⟨keys, hkeys⟩ := exists_namedKeys_eq ho
  obtain ⟨keys', hkeys'⟩ := exists_namedKeys_eq ho'
  -- both keys are named, and the keys of a job are different
  have hnamed : namedKeys (before ++ spelling ++ between ++ spelling' ++ behind) =
      namedKeys before ++ (o.key :: keys) ++ namedKeys between ++ (o'.key :: keys') ++
        namedKeys behind := by
    rw [← hkeys, ← hkeys']
    simp only [namedKeys, List.filterMap_append]
  cases hrequest : generateRequest (before ++ spelling ++ between ++ spelling' ++ behind) with
  | error fault => exact ⟨fault, makeNoJob_of_request hrequest⟩
  | ok r =>
    obtain ⟨hnodup, hboth⟩ := keys_of_generateRequest hrequest
    rw [hnamed] at hnodup hboth
    exfalso
    obtain heq | ⟨rfl, rfl⟩ | ⟨rfl, rfl⟩ := h
    · rw [heq] at hnodup
      simp [List.nodup_append] at hnodup
    · exact hboth ⟨by simp [key, Flag.key], by simp [key, Flag.key]⟩
    · exact hboth ⟨by simp [key, Flag.key], by simp [key, Flag.key]⟩

/-- Where all keys are different, only the two flags for the representation of integers exclude each
other. -/
theorem flags_mem_of_excludes {options : List GivenOption}
    (hnodup : (options.map GivenOption.key).Nodup)
    (h : ¬ options.Pairwise fun o o' => ¬ o.Excludes o') :
    .flag .nativeTypes ∈ options ∧ .flag .solidityTypes ∈ options := by
  by_contra hflags
  refine h (List.Pairwise.imp_of_mem ?_ (List.pairwise_map.1 hnodup))
  rintro o o' ho ho' hne (heq | ⟨rfl, rfl⟩ | ⟨rfl, rfl⟩)
  · exact hne heq
  · exact hflags ⟨ho, ho'⟩
  · exact hflags ⟨ho', ho⟩

/-- Where nothing else is wrong with the values, options that exclude each other are told as a
conflict, even if others are missing. -/
theorem Spelled.conflict {options : List GivenOption} {arguments : List String}
    (h : Spelled options arguments) (hproper : ∀ o ∈ options, o.IsProper)
    (hexcludes : ¬ options.Pairwise fun o o' => ¬ o.Excludes o') :
    request ("generate" :: arguments) = .error .conflict := by
  rw [request_generate, h.generateRequest_eq hproper]
  split_ifs with hnodup
  · obtain ⟨hnative, hexact⟩ := flags_mem_of_excludes hnodup hexcludes
    have hkey {f : Flag} (hf : .flag f ∈ options) :
        f.key ∈ Progress.givenKeys ⟨options.map GivenOption.entry, none⟩ :=
      List.mem_map.2 ⟨_, List.mem_map_of_mem hf, rfl⟩
    exact Progress.request_of_both (hkey hnative) (hkey hexact)
  · rfl

/-! ## The main result -/

/-- What a user chooses makes one job, in any order of the options and in any spelling of each, and
integers are of exact width if and only if that flag is given. Options that exclude each other never
make a job: whatever else is among the arguments, the files stay as they are, and where nothing else
is wrong with the values, a conflict is told. -/
theorem options_in_any_order_and_spelling :
    (∀ (c : Choices) (order : List GivenOption) (arguments : List String),
      (∀ o ∈ c.options, o.IsProper) → order.Perm c.options → Spelled order arguments →
        MakeJob ("generate" :: arguments) c.request ∧
          (c.request.job.policy = .exact ↔ .flag .solidityTypes ∈ order)) ∧
    (∀ (o o' : GivenOption) (spelling spelling' before between behind : List String),
      o.Excludes o' → spelling ∈ o.spellings → spelling' ∈ o'.spellings →
        ∃ fault,
          MakeNoJob ("generate" :: (before ++ spelling ++ between ++ spelling' ++ behind)) fault) ∧
    ∀ (options : List GivenOption) (arguments : List String),
      (∀ o ∈ options, o.IsProper) → Spelled options arguments →
        ¬ options.Pairwise (fun o o' => ¬ o.Excludes o') →
          MakeNoJob ("generate" :: arguments) .conflict := by
  refine ⟨?job, ?excluded, ?conflict⟩
  case job =>
    intro c order arguments hproper horder h
    exact ⟨makeJob_of_request (c.request_of_spelled hproper horder h),
      c.exact_iff.trans horder.mem_iff.symm⟩
  case excluded =>
    intro o o' spelling spelling' before between behind hexcludes ho ho'
    exact hexcludes.exists_makeNoJob ho ho' before between behind
  case conflict =>
    intro options arguments hproper h hexcludes
    exact makeNoJob_of_request (h.conflict hproper hexcludes)

/-- Choices with values that have equals signs in them or are names of commands. -/
def misleadingChoices : Choices where
  abiFile := "generate"
  outputDir := "a=b"
  package := "help"
  binFile := some "x=--st"
  policy := some .exact
  noFormat := true

/-- An order of these choices. -/
def misleadingOrder : List GivenOption := [
  .value .package "help", .flag .solidityTypes, .value .outputDir "a=b", .flag .noFormat,
  .value .abiFile "generate", .value .binFile "x=--st"]

/-- Values that look like options or commands do not mislead, in any order; two options that exclude
each other make no job. -/
theorem options_in_any_order_and_spelling_misleading :
    (∀ o ∈ misleadingChoices.options, o.IsProper) ∧ misleadingOrder.Perm misleadingChoices.options ∧
      MakeJob ["generate", "-phelp", "--st", "-o=a=b", "--noFormat", "-a", "generate",
        "--binFile=x=--st"] misleadingChoices.request ∧
      ∃ fault, MakeNoJob ["generate", "--jt", "-p", "--st", "-h"] fault := by
  have hproper : ∀ o ∈ misleadingChoices.options, o.IsProper := by decide
  have horder : misleadingOrder.Perm misleadingChoices.options := by decide
  have hspelled : Spelled misleadingOrder (["-phelp"] ++ (["--st"] ++ (["-o=a=b"] ++
      (["--noFormat"] ++ (["-a", "generate"] ++ (["--binFile=x=--st"] ++ [])))))) :=
    .cons (by decide) (.cons (by decide) (.cons (by decide) (.cons (by decide)
      (.cons (by decide) (.cons (by decide) .nil)))))
  obtain ⟨hjob, hexcluded, -⟩ := options_in_any_order_and_spelling
  exact ⟨hproper, horder, (hjob misleadingChoices misleadingOrder _ hproper horder hspelled).1,
    hexcluded (.flag .nativeTypes) (.flag .solidityTypes) ["--jt"] ["--st"] [] ["-p"] ["-h"]
      (.inr (.inl ⟨rfl, rfl⟩)) (by decide) (by decide)⟩

end AbiBindings.CommandLine
