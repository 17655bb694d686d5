import AbiBindings.Proofs.Atomicity
import AbiBindings.Proofs.ConfiguredNames

/-!
# Names at the top level

The generated module and the contract type beside it stand in one scope. The one is named by the
contract name in lower case, the other by the contract name as it is read, or both by the settings,
and nothing makes the two differ. They are the same exactly if the contract name has no capitals and
nothing but ASCII letters, digits and underscores, or if both settings are read as one identifier
(`top_level_names_eq_iff`). A job capitalizes its contract name, which leaves the names of files
that begin with an underscore.
-/

set_option autoImplicit false

namespace AbiBindings.Naming

open Text (isDigit)

/-! ## Names are not shortened -/

/-- A safe name is no shorter than what it is made of. -/
theorem length_le_safeName (s : String) : s.toList.length ≤ (safeName s).toList.length := by
  have hchars : s.toList.length ≤ (safeChars s.toList).length := by
    have hmap : (s.toList.map safeChar).length = s.toList.length := List.length_map _
    unfold safeChars
    split
    · rename_i heq
      rw [heq] at hmap
      simp only [List.length_nil] at hmap
      omega
    · rename_i heq
      rw [heq] at hmap
      simp only [List.length_cons, List.length_nil] at hmap ⊢
      omega
    · rename_i heq
      rw [heq] at hmap
      split
      · simp only [List.length_cons] at hmap ⊢
        omega
      · omega
  unfold safeName
  dsimp only
  split
  · rw [String.toList_append, List.length_append, String.toList_ofList]
    omega
  · rwa [String.toList_ofList]

/-- In lower case, characters become no fewer. -/
theorem length_le_snakeChars (before : Option Char) (cs : List Char) :
    cs.length ≤ (snakeChars before cs).length := by
  induction cs generalizing before with
  | nil => simp
  | cons c rest ih =>
    have hrest := ih (some c)
    rw [snakeChars]
    split
    · split
      · simp only [List.length_append, List.length_cons, List.length_nil]
        omega
      · simp only [List.length_append, List.length_cons, List.length_nil]
        omega
    · simp only [List.length_cons]
      omega

/-- A name in lower case is no shorter than what it is made of. -/
theorem length_le_snakeName (s : String) : s.toList.length ≤ (snakeName s).toList.length := by
  calc s.toList.length
      ≤ (safeName s).toList.length := length_le_safeName s
    _ ≤ (snakeChars none (safeName s).toList).length := length_le_snakeChars none _
    _ = (String.ofList (snakeChars none (safeName s).toList)).toList.length := by
        rw [String.toList_ofList]
    _ ≤ (snakeName s).toList.length := length_le_safeName _

/-- The names in lower case are the safe names without capitals. -/
theorem snakeName_eq_self_iff {s : String} :
    snakeName s = s ↔ IsSafe s ∧ s.toList.all isSnakeChar := by
  constructor
  · intro h
    rw [← h]
    exact ⟨isSafe_safeName _, all_isSnakeChar_snakeName s⟩
  · rintro ⟨hsafe, hsnake⟩
    have hname := safeName_eq_self_iff.2 hsafe
    have hcapital : ∀ c ∈ s.toList, ¬ isCapital c := by
      intro c hc
      have hchar : isSnakeChar c := List.all_eq_true.1 hsnake c hc
      obtain hword | hunderscore := Bool.or_eq_true_iff.1 hchar
      · exact not_isCapital_of_isSmall_or_isDigit hword
      · rw [beq_iff_eq.1 hunderscore]
        exact isCapital_underscore
    rw [snakeName, hname, snakeChars_eq_self none hcapital, String.ofList_toList, hname]

/-! ## Upper case -/

/-- The characters of names in lower case by their code points. -/
theorem isSnakeChar_iff (c : Char) : isSnakeChar c ↔
    (48 ≤ c.toNat ∧ c.toNat ≤ 57) ∨ c.toNat = 95 ∨ (97 ≤ c.toNat ∧ c.toNat ≤ 122) := by
  have hunderscore : c = '_' ↔ c.toNat = 95 := by
    constructor
    · rintro rfl
      rfl
    · intro h
      rw [← Char.ofNat_toNat c, h]
  simp only [isSnakeChar, isWordChar, Bool.or_eq_true, beq_iff_eq, isSmall_iff, isDigit_iff,
    hunderscore]
  omega

/-- The runs of characters with a single upper-case character lead past the characters of names in
lower case. -/
theorem caseRuns_bounds {run : Text.CaseRun} (h : run ∈ Text.caseRuns) :
    (57 < run.first + run.distance ∧ run.last + run.distance < 95) ∨
      122 < run.first + run.distance := by
  have hruns : Text.caseRuns.all fun run =>
      decide ((57 < run.first + run.distance ∧ run.last + run.distance < 95) ∨
        122 < run.first + run.distance) := by
    decide +kernel
  exact of_decide_eq_true (List.all_eq_true.1 hruns run h)

/-- The code point of the character for a number is that number, or zero if there is none. -/
theorem toNat_ofNat (n : Nat) : (Char.ofNat n).toNat = n ∨ (Char.ofNat n).toNat = 0 := by
  by_cases h : n.isValidChar
  · have hchar : Char.ofNat n = Char.ofNatAux n h := dif_pos h
    rw [hchar]
    exact Or.inl rfl
  · have hchar : Char.ofNat n = '\x00' := dif_neg h
    rw [hchar]
    exact Or.inr rfl

/-- An upper-case form begins with a character that names in lower case do not have, unless there is
nothing to change. -/
theorem upperChars_cases (c : Char) :
    (∃ d ds, Text.upperChars c = d :: ds ∧ ¬ isSnakeChar d) ∨
      (Text.upperChars c = [c] ∧ ¬ isSmall c) := by
  unfold Text.upperChars
  dsimp only
  split
  · rename_i expansion hlookup
    have hfirst : Text.caseExpansions.all fun entry =>
        (entry.2.map Char.ofNat).head?.any fun d => !isSnakeChar d := by
      decide +kernel
    have hentry := List.all_eq_true.1 hfirst _ (mem_of_lookup_eq_some hlookup)
    obtain ⟨d, hd, hnot⟩ := (Option.any_eq_true _ _).1 hentry
    obtain ⟨ds, hds⟩ := List.head?_eq_some_iff.1 hd
    exact Or.inl ⟨d, ds, hds, by simpa using hnot⟩
  · split
    · rename_i run hrun
      have hbounds := caseRuns_bounds (List.mem_of_find?_eq_some hrun)
      have hcontains := List.find?_some hrun
      simp only [Text.CaseRun.contains, Bool.and_eq_true, decide_eq_true_eq] at hcontains
      obtain ⟨⟨hfirst, hlast⟩, -⟩ := hcontains
      have hcode := toNat_ofNat (c.toNat + run.distance).toNat
      refine Or.inl ⟨_, [], rfl, ?_⟩
      rw [isSnakeChar_iff]
      omega
    · rename_i hnone
      have hletters : (⟨0x61, 0x7a, 1, -32⟩ : Text.CaseRun) ∈ Text.caseRuns := List.mem_cons_self
      have hnot := List.find?_eq_none.1 hnone _ hletters
      simp only [Text.CaseRun.contains, Nat.mod_one, beq_self_eq_true, Bool.and_true,
        Bool.and_eq_true, decide_eq_true_eq] at hnot
      refine Or.inr ⟨rfl, ?_⟩
      rw [isSmall_iff]
      omega

/-- Of the characters of names in lower case, only small letters have capitals. -/
theorem upperChars_eq_self {c : Char} (h : isSnakeChar c) (hsmall : ¬ isSmall c) :
    Text.upperChars c = [c] := by
  have hdigits : ∀ n : Fin 10,
      Text.upperChars (Char.ofNat (48 + n)) = [Char.ofNat (48 + n)] := by
    decide +kernel
  obtain hword | hunderscore := Bool.or_eq_true_iff.1 h
  · obtain hletter | hdigit := Bool.or_eq_true_iff.1 hword
    · exact absurd hletter hsmall
    · obtain ⟨n, rfl⟩ := exists_ofNat_of_range ((isDigit_iff c).1 hdigit)
      exact hdigits n
  · obtain rfl := beq_iff_eq.1 hunderscore
    decide +kernel

/-- A capitalized text is in lower case exactly if there was nothing to capitalize. -/
theorem all_isSnakeChar_capitalize_iff {s : String} :
    (capitalize s).toList.all isSnakeChar ↔
      s.toList.all isSnakeChar ∧ ∀ c ∈ s.toList.head?, ¬ isSmall c := by
  unfold capitalize
  cases hs : s.toList with
  | nil => simp
  | cons c rest =>
    dsimp only
    rw [String.toList_ofList, List.all_append, List.head?_cons]
    obtain ⟨d, ds, hupper, hsnake⟩ | ⟨hupper, hsmall⟩ := upperChars_cases c
    · rw [hupper]
      constructor
      · intro h
        simp [hsnake] at h
      · rintro ⟨hall, hsmall⟩
        have hc : isSnakeChar c := List.all_eq_true.1 hall c List.mem_cons_self
        rw [upperChars_eq_self hc (hsmall c rfl)] at hupper
        obtain ⟨rfl, -⟩ := List.cons.inj hupper
        exact absurd hc hsnake
    · rw [hupper]
      simp [hsmall]

end AbiBindings.Naming

namespace AbiBindings.Bindings

open Code Naming
open Text (isDigit)

/-! ## Accepted names in lower case -/

/-- No identifier begins with a digit. -/
theorem not_isDigit_of_isIdentifierStart {c : Char} (h : Text.isIdentifierStart c) :
    ¬ isDigit c := by
  have hdigits : ∀ n : Fin 10, Text.isIdentifierStart (Char.ofNat (48 + n)) = false := by
    decide +kernel
  intro hdigit
  obtain ⟨n, rfl⟩ := exists_ofNat_of_range ((isDigit_iff c).1 hdigit)
  rw [hdigits n] at h
  cases h

/-- The reader passes over nothing at the front of a name in lower case. -/
theorem readFrom_of_all_isSnakeChar {text : String} (h : text.toList.all isSnakeChar) :
    readFrom text = text.toList := by
  unfold readFrom
  cases hcs : text.toList with
  | nil => decide +kernel
  | cons c rest =>
    rw [hcs, List.all_cons, Bool.and_eq_true] at h
    have hc := h.1
    have hcontinue := isIdentifierContinue_of_isNameChar (isNameChar_of_isSnakeChar hc)
    have hmark : c ≠ '\uFEFF' := by
      rintro rfl
      exact absurd hc (by decide)
    have hslash : c ≠ '/' := by
      rintro rfl
      exact absurd hc (by decide)
    have hdrop : dropByteOrderMark (c :: rest) = c :: rest := by
      unfold dropByteOrderMark
      split
      · rename_i heq
        exact absurd (List.cons.inj heq).1 hmark
      · rfl
    rw [hdrop, skipTrivia_cons_of_not (not_isSeparator_of_isIdentifierContinue hcontinue) hslash]

/-- An accepted name in lower case is accepted as it stands, and is a safe name. -/
theorem AcceptedAs.eq_of_all_isSnakeChar {text word : String} (h : AcceptedAs text word)
    (hsnake : text.toList.all isSnakeChar) : word = text ∧ IsSafe text := by
  obtain ⟨behind, hfront, hbehind⟩ := h.reads
  rw [readFrom_of_all_isSnakeChar hsnake] at hfront
  have hnone : behind = [] := by
    cases behind with
    | nil => rfl
    | cons c rest =>
      have hc : isSnakeChar c := List.all_eq_true.1 hsnake c (by rw [hfront]; simp)
      have hcontinue := isIdentifierContinue_of_isNameChar (isNameChar_of_isSnakeChar hc)
      exact absurd hcontinue (not_isIdentifierContinue_of_skipTrivia hbehind c rfl)
  rw [hnone, List.append_nil] at hfront
  obtain rfl : text = word := String.toList_injective hfront
  refine ⟨rfl, ?_⟩
  obtain hplain | ⟨w, -, -, rfl⟩ := h.shape
  · have hchars : text.toList.all isNameChar := by
      rw [List.all_eq_true] at hsnake ⊢
      exact fun c hc => isNameChar_of_isSnakeChar (hsnake c hc)
    have hfirst : text.toList.head?.any fun c => !isDigit c := by
      have hword := hplain.word
      unfold isWord at hword
      cases hcs : text.toList with
      | nil =>
        rw [hcs] at hword
        cases hword
      | cons c rest =>
        rw [hcs, Bool.and_eq_true] at hword
        simpa using not_isDigit_of_isIdentifierStart hword.1
    refine ⟨⟨hchars, hfirst⟩, ?_, hplain.unreserved⟩
    rintro rfl
    exact hplain.unreserved (by decide +kernel)
  · rw [String.toList_append, List.all_append, Bool.and_eq_true] at hsnake
    exact absurd hsnake.1 (by decide)

/-- The lower-case form of a text that is accepted is what it is accepted as exactly if the text is
in lower case itself. -/
theorem AcceptedAs.snakeName_eq_iff {text word : String} (h : AcceptedAs text word) :
    snakeName text = word ↔ text.toList.all isSnakeChar := by
  constructor
  · intro hsame
    obtain ⟨before, behind, hparts, -, -⟩ := h.exists_parts
    -- the lower-case form is at least as long as the text, so nothing was passed over
    have hlength := length_le_snakeName text
    rw [hsame, hparts, List.length_append, List.length_append] at hlength
    obtain rfl : before = [] := List.eq_nil_of_length_eq_zero (by omega)
    obtain rfl : behind = [] := List.eq_nil_of_length_eq_zero (by omega)
    rw [List.nil_append, List.append_nil] at hparts
    rw [hparts, ← hsame]
    exact all_isSnakeChar_snakeName text
  · intro hsnake
    obtain ⟨rfl, hsafe⟩ := h.eq_of_all_isSnakeChar hsnake
    exact snakeName_eq_self_iff.2 ⟨hsafe, hsnake⟩

/-! ## The two names -/

variable {settings : Settings} {name : String} {abi : Abi.Interface} {code : Bytecode}
  {b : ContractBindings}

/-- Whether the settings give the module and the contract type one name: both are read as one
identifier, or the module is named after a contract whose name is in lower case. -/
def NamesCoincide (settings : Settings) (name : String) : Prop :=
  match settings.moduleName with
  | some text => identifier? text = identifier? (settings.contractName.getD name)
  | none => (settings.contractName.getD name).toList.all isSnakeChar

/-- Module and contract type have one name exactly if the settings make them coincide. -/
theorem moduleName_eq_contractName_iff (h : generate settings name abi code = .ok b) :
    b.moduleName = b.contractName ↔ NamesCoincide settings name := by
  have hnamed := namedAfter_of_generate h
  have hcontract := hnamed.contract
  unfold NamesCoincide
  cases hmodule : settings.moduleName with
  | none =>
    dsimp only
    rw [(hnamed.madeModule hmodule).1]
    exact hcontract.snakeName_eq_iff
  | some text =>
    dsimp only
    have haccepted := hnamed.chosenModule text hmodule
    rw [identifier?_eq_some_iff.2 ⟨haccepted.reads, haccepted.shape⟩,
      identifier?_eq_some_iff.2 ⟨hcontract.reads, hcontract.shape⟩]
    exact ⟨congrArg some, Option.some.inj⟩

end AbiBindings.Bindings

namespace AbiBindings

open Bindings Naming
open Text (isDigit)

/-- The bindings of a job have one name for module and contract type exactly if the name of its file
begins with an underscore and has nothing but small letters, digits and underscores behind it. -/
theorem Job.moduleName_eq_contractName_iff {job : Job} {format : Bool} {abi : Abi.Interface}
    {code : Bytecode} {b : ContractBindings}
    (h : generate (job.settings format) job.contractName abi code = .ok b) :
    b.moduleName = b.contractName ↔
      ∃ rest, (FilePath.stem job.abiPath).toList = '_' :: rest ∧ rest.all isSnakeChar := by
  have haccepted : AcceptedAs job.contractName b.contractName := (namedAfter_of_generate h).contract
  have hcoincide : NamesCoincide (job.settings format) job.contractName ↔
      job.contractName.toList.all isSnakeChar := Iff.rfl
  rw [Bindings.moduleName_eq_contractName_iff h, hcoincide]
  constructor
  · intro hsnake
    have hfirst := (haccepted.eq_of_all_isSnakeChar hsnake).2.name.first
    rw [contractName, all_isSnakeChar_capitalize_iff] at hsnake
    obtain ⟨hstem, hsmall⟩ := hsnake
    unfold contractName capitalize at hfirst
    cases hcs : (FilePath.stem job.abiPath).toList with
    | nil =>
      rw [hcs] at hfirst
      cases hfirst
    | cons c rest =>
      rw [hcs] at hstem hsmall hfirst
      rw [List.all_cons, Bool.and_eq_true] at hstem
      obtain ⟨hc, hrest⟩ := hstem
      have hletter := hsmall c rfl
      -- what is no letter stays as it is, and no identifier begins with a digit
      have hdigit : ¬ isDigit c := by
        dsimp only at hfirst
        rw [upperChars_eq_self hc hletter] at hfirst
        simpa using hfirst
      obtain rfl : c = '_' := by
        simpa [isSnakeChar, isWordChar, hletter, hdigit] using hc
      exact ⟨rest, rfl, hrest⟩
  · rintro ⟨rest, hstem, hrest⟩
    rw [contractName, all_isSnakeChar_capitalize_iff, hstem]
    constructor
    · rw [List.all_cons, hrest]
      rfl
    · intro c hc
      obtain rfl : '_' = c := Option.some.inj hc
      decide

/-- The bindings of a job are to be formatted if the job is asked for that. -/
theorem Job.Generates.format_eq {read : String → Except String (List UInt8)} {job : Job}
    {format : Bool} {b : ContractBindings} (h : job.Generates read format b) :
    b.format = format := by
  obtain ⟨_, -, _, -, _, -, hgenerate⟩ := h
  obtain ⟨_, _, _, _, -, -, -, -, -, rfl⟩ := generate_eq_ok hgenerate
  rfl

/-- The module and the contract type beside it may have one name. They do exactly if the settings
name the module by the identifier of the contract, or do not name it and the contract has a name of
small letters, digits and underscores. The bindings that a job writes, as they are or formatted,
have one name for both exactly if the stem of its interface file is such a name and begins with an
underscore; if it begins with a letter they are told apart. -/
theorem top_level_names_eq_iff (settings : Settings) (name : String) (abi : Abi.Interface)
    (code : Bytecode) {σ : Type} (storage : Storage σ) (formatter : Formatter) (format : Bool)
    (job : Job) (files : σ) :
    (∀ b, generate settings name abi code = .ok b →
      (b.moduleName = b.contractName ↔ NamesCoincide settings name)) ∧
    ∀ output, (job.run storage formatter format files).2.result = .ok output →
      ∃ b, job.Generates (storage.read files) format b ∧
        output.source = b.written formatter ∧ (format = false → output.source = b.source) ∧
        (b.moduleName = b.contractName ↔
          ∃ rest, (FilePath.stem job.abiPath).toList = '_' :: rest ∧ rest.all isSnakeChar) := by
  constructor
  · intro b
    exact Bindings.moduleName_eq_contractName_iff
  · intro output h
    obtain ⟨b, hgenerates, -, hsource, -⟩ := Job.run_success h
    refine ⟨b, hgenerates, hsource, ?_, ?_⟩
    · intro hformat
      rw [hsource]
      exact (ContractBindings.written_of_not_format (hgenerates.format_eq.trans hformat)).1
    · obtain ⟨_, -, _, -, _, -, hgenerate⟩ := hgenerates
      exact Job.moduleName_eq_contractName_iff hgenerate

/-- A job whose file is named in small letters behind an underscore. -/
def vestingJob : Job :=
  ⟨"abi/_vesting.json", none, "gen", "", .native⟩

/-- A store with the interface of that job. -/
def vestingStore : Store :=
  Store.empty.put "abi/_vesting.json" escrowDocument

/-- A contract in small letters shares its name with its module, one with a capital does not, and a
job can write such a module. -/
theorem top_level_names_eq_iff_vesting :
    (∃ b, generate {} "token" ⟨[]⟩ .notProvided = .ok b ∧ b.moduleName = b.contractName) ∧
    (∃ b, generate {} "Token" ⟨[]⟩ .notProvided = .ok b ∧ b.moduleName ≠ b.contractName) ∧
    ∃ (output : Output) (b : ContractBindings),
      (vestingJob.run Store.storage missingFormatter false vestingStore).2.result = .ok output ∧
      output.source = b.source ∧ b.moduleName = b.contractName := by
  have hnames := fun name => (top_level_names_eq_iff {} name ⟨[]⟩ .notProvided Store.storage
    missingFormatter false vestingJob vestingStore).1
  have hjob := (top_level_names_eq_iff {} "token" ⟨[]⟩ .notProvided Store.storage missingFormatter
    false vestingJob vestingStore).2
  refine ⟨?_, ?_, ?_⟩
  · have hgenerate : ∃ b, generate {} "token" ⟨[]⟩ .notProvided = .ok b :=
      Traversal.isOk_iff.1 (by decide +kernel)
    obtain ⟨b, hb⟩ := hgenerate
    have hsnake : "token".toList.all isSnakeChar := by decide
    exact ⟨b, hb, (hnames _ _ hb).2 hsnake⟩
  · have hgenerate : ∃ b, generate {} "Token" ⟨[]⟩ .notProvided = .ok b :=
      Traversal.isOk_iff.1 (by decide +kernel)
    obtain ⟨b, hb⟩ := hgenerate
    have hsnake : ¬ "Token".toList.all isSnakeChar := by decide
    exact ⟨b, hb, fun heq => hsnake ((hnames _ _ hb).1 heq)⟩
  · have hpath :
        (vestingJob.run Store.storage missingFormatter false vestingStore).2.result.toOption.map
          Output.path = some "gen/_vesting.rs" := by
      decide +kernel
    cases hresult : (vestingJob.run Store.storage missingFormatter false vestingStore).2.result with
    | error fault =>
      rw [hresult] at hpath
      cases hpath
    | ok output =>
      obtain ⟨b, -, -, hsource, hiff⟩ := hjob _ hresult
      have hstem : (FilePath.stem vestingJob.abiPath).toList = '_' :: "vesting".toList := by
        decide +kernel
      exact ⟨output, b, rfl, hsource rfl, hiff.2 ⟨_, hstem, by decide⟩⟩

end AbiBindings
