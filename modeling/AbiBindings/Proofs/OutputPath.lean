import AbiBindings.Proofs.Independence
import AbiBindings.Proofs.Runs

/-!
# The output stays below its directory

The path of generated code is made of names that the generator builds or checks itself: one for each
run of the package between points and colons, and the file of the module. None of them is empty, has
a slash or leads out of its directory. So what is written lies below the output directory, whatever
stands in the package (`output_stays_below`).
-/

set_option autoImplicit false

namespace AbiBindings

/-! ## Components of paths -/

namespace FilePath

/-- Whether a text leads from a directory to something in that directory. -/
structure IsPlain (component : String) : Prop where
  ne_empty : component ≠ ""
  ne_point : component ≠ "."
  ne_points : component ≠ ".."
  no_slash : '/' ∉ component.toList

/-- Whether a path lies below a directory: it goes on with plain components where the components of
the directory end. -/
structure IsBelow (path directory : String) : Prop where
  /-- Both start at the root, or neither. -/
  start : isAbsolute path = isAbsolute directory
  deeper : ∃ below, below ≠ [] ∧ (∀ c ∈ below, IsPlain c) ∧
    components path = components directory ++ below

/-- Plain components all count. -/
theorem filter_eq_self_of_isPlain {cs : List String} (h : ∀ c ∈ cs, IsPlain c) :
    cs.filter (fun piece => piece ≠ "" ∧ piece ≠ ".") = cs := by
  rw [List.filter_eq_self]
  intro c hc
  have hplain := h c hc
  simp [hplain.ne_empty, hplain.ne_point]

/-- The components of a path with plain pieces are its pieces. -/
theorem components_of_isPlain {path : String} (h : ∀ c ∈ pieces path, IsPlain c) :
    components path = pieces path := by
  unfold components
  split
  · rename_i rest heq
    have hpoint : IsPlain "." := h "." (by simp [heq])
    exact absurd rfl hpoint.ne_point
  · exact filter_eq_self_of_isPlain h

/-- The components of a path: the first piece counts if it is a point, and the others if they are
neither empty nor a point. -/
theorem components_of_cons {path first : String} {rest : List String}
    (h : pieces path = first :: rest) :
    components path = (if first = "." then [first] else [first].filter (· ≠ "")) ++
      rest.filter fun piece => piece ≠ "" ∧ piece ≠ "." := by
  unfold components
  rw [h]
  by_cases hpoint : first = "."
  · subst hpoint
    rfl
  · split
    · rename_i heq
      exact absurd (List.cons.inj heq).1 hpoint
    · by_cases hempty : first = "" <;> simp [hpoint, hempty]

/-- Behind further pieces stand the components that those give. -/
theorem components_of_pieces {path directory : String} {behind : List String}
    (h : pieces path = pieces directory ++ behind) :
    components path = components directory ++
      behind.filter fun piece => piece ≠ "" ∧ piece ≠ "." := by
  cases hpieces : pieces directory with
  | nil =>
    have hlist : Text.splitAt (· == '/') directory.toList = [] := List.map_eq_nil_iff.1 hpieces
    exact absurd hlist (Text.splitAt_ne_nil _ _)
  | cons first rest =>
    rw [hpieces, List.cons_append] at h
    rw [components_of_cons h, components_of_cons hpieces, List.filter_append, List.append_assoc]

/-- Behind a slash follow the pieces of what stands there. -/
theorem pieces_append (path other : String) :
    pieces (path ++ "/" ++ other) = pieces path ++ pieces other :=
  Text.split_append rfl rfl path other

/-- A slash at the end is followed by an empty piece. -/
theorem pieces_append_slash (path : String) : pieces (path ++ "/") = pieces path ++ [""] := by
  have hpieces := pieces_append path ""
  rwa [String.append_empty] at hpieces

/-- A text that ends in a slash has a text before it. -/
theorem exists_eq_append_slash {s : String} (h : s.toList.getLast? = some '/') :
    ∃ before, s = before ++ "/" := by
  obtain ⟨cs, hcs⟩ := List.getLast?_eq_some_iff.1 h
  refine ⟨String.ofList cs, ?_⟩
  apply String.toList_injective
  simpa using hcs

/-- A path with plain components is not one from the root. -/
theorem isAbsolute_eq_false {path : String} (h : ∀ c ∈ pieces path, IsPlain c) :
    isAbsolute path = false := by
  unfold isAbsolute
  cases hpath : path.toList with
  | nil => rfl
  | cons c rest =>
    by_cases hc : c = '/'
    · subst hc
      have hempty : "" ∈ pieces path := by
        rw [pieces, Text.split, hpath, Text.splitAt]
        simp
      exact absurd rfl (h "" hempty).ne_empty
    · simpa using hc

/-! ## Joined paths -/

/-- A path that is not one from the root is put behind the directory, and behind a slash. -/
theorem join_of_relative {path : String} (h : isAbsolute path = false) (directory : String) :
    join directory path =
      if directory = "" ∨ directory.toList.getLast? = some '/' then directory ++ path
      else directory ++ "/" ++ path := by
  rw [join, if_neg (by simp [h])]

/-- The components of a directory are followed by those of a path with plain components. -/
theorem components_join {relative : String} (h : ∀ c ∈ pieces relative, IsPlain c)
    (directory : String) :
    components (join directory relative) = components directory ++ pieces relative := by
  have hkept := filter_eq_self_of_isPlain h
  rw [join_of_relative (isAbsolute_eq_false h)]
  split
  · rename_i hdirectory
    rcases hdirectory with rfl | hslash
    · rw [String.empty_append, components_of_isPlain h]
      rfl
    · obtain ⟨before, rfl⟩ := exists_eq_append_slash hslash
      -- the slash at the end of the directory adds an empty piece, which does not count
      have hdirectory : components (before ++ "/") = components before := by
        simpa using components_of_pieces (pieces_append_slash before)
      rw [components_of_pieces (pieces_append before relative), hkept, hdirectory]
  · rw [components_of_pieces (pieces_append directory relative), hkept]

/-- A path that is not one from the root leaves where a directory starts as it is. -/
theorem isAbsolute_join {relative : String} (h : isAbsolute relative = false)
    (directory : String) : isAbsolute (join directory relative) = isAbsolute directory := by
  rw [join_of_relative h]
  by_cases hempty : directory = ""
  · subst hempty
    rw [if_pos (Or.inl rfl), String.empty_append, h]
    rfl
  · have hfirst : ∀ behind : List Char,
        (directory.toList ++ behind).head? = directory.toList.head? := by
      intro behind
      obtain ⟨c, rest, hcs⟩ := List.exists_cons_of_ne_nil
        (mt String.toList_eq_nil_iff.1 hempty)
      rw [hcs]
      rfl
    unfold isAbsolute
    split
    · rw [String.toList_append, hfirst]
    · rw [String.append_assoc, String.toList_append, hfirst]

/-- A path of plain components lies below every directory that it is joined to. -/
theorem isBelow_join {relative : String} (h : ∀ c ∈ pieces relative, IsPlain c)
    (directory : String) : IsBelow (join directory relative) directory where
  start := isAbsolute_join (isAbsolute_eq_false h) directory
  deeper := by
    refine ⟨pieces relative, ?_, h, components_join h directory⟩
    exact mt List.map_eq_nil_iff.1 (Text.splitAt_ne_nil _ _)

/-- A plain component is the only piece of itself. -/
theorem pieces_of_isPlain {component : String} (h : IsPlain component) :
    pieces component = [component] := by
  apply Text.split_eq_singleton
  intro c hc
  simp only [beq_iff_eq]
  rintro rfl
  exact h.no_slash hc

/-- A plain component is not a path from the root. -/
theorem IsPlain.isAbsolute_eq_false {component : String} (h : IsPlain component) :
    isAbsolute component = false := by
  apply FilePath.isAbsolute_eq_false
  intro c hc
  rw [pieces_of_isPlain h, List.mem_singleton] at hc
  rwa [hc]

/-- Joined to a path of plain components, a plain component is one more of them. -/
theorem pieces_join {path component : String} (hpath : ∀ c ∈ pieces path, IsPlain c)
    (h : IsPlain component) : pieces (join path component) = pieces path ++ [component] := by
  have hbetween : ¬ (path = "" ∨ path.toList.getLast? = some '/') := by
    rintro (rfl | hslash)
    · exact absurd rfl (hpath "" (by decide)).ne_empty
    · obtain ⟨before, rfl⟩ := exists_eq_append_slash hslash
      have hempty : "" ∈ pieces (before ++ "/") := by
        simp [pieces_append_slash]
      exact absurd rfl (hpath "" hempty).ne_empty
  rw [join_of_relative h.isAbsolute_eq_false, if_neg hbetween, pieces_append, pieces_of_isPlain h]

/-- Plain components that are joined to a path of such are its further pieces. -/
theorem pieces_foldl_join {cs : List String} {path : String} (h : ∀ c ∈ cs, IsPlain c)
    (hpath : ∀ c ∈ pieces path, IsPlain c) :
    pieces (cs.foldl join path) = pieces path ++ cs := by
  induction cs generalizing path with
  | nil => simp
  | cons c cs ih =>
    obtain ⟨hc, hcs⟩ := List.forall_mem_cons.1 h
    have hjoined := pieces_join hpath hc
    have hplain : ∀ piece ∈ pieces (join path c), IsPlain piece := by
      intro piece hpiece
      rw [hjoined, List.mem_append, List.mem_singleton] at hpiece
      rcases hpiece with hpiece | rfl
      · exact hpath piece hpiece
      · exact hc
    rw [List.foldl_cons, ih hcs hplain, hjoined, List.append_assoc, List.singleton_append]

/-- Plain components are the pieces of the path that they are joined to. -/
theorem pieces_foldl_join_empty {cs : List String} (hne : cs ≠ []) (h : ∀ c ∈ cs, IsPlain c) :
    pieces (cs.foldl join "") = cs := by
  obtain ⟨c, cs, rfl⟩ := List.exists_cons_of_ne_nil hne
  obtain ⟨hc, hcs⟩ := List.forall_mem_cons.1 h
  have hfirst : join "" c = c := by
    rw [join_of_relative hc.isAbsolute_eq_false, if_pos (Or.inl rfl), String.empty_append]
  have hpieces := pieces_of_isPlain hc
  have hplain : ∀ piece ∈ pieces c, IsPlain piece := by
    simpa [hpieces] using hc
  rw [List.foldl_cons, hfirst, pieces_foldl_join hcs hplain, hpieces, List.singleton_append]

/-! ## Names as components -/

/-- A name is plain. -/
theorem isPlain_of_isName {s : String} (h : Naming.IsName s.toList) : IsPlain s := by
  have hchar : ∀ c, Naming.isNameChar c = false → c ∉ s.toList := by
    intro c hc hmem
    rw [List.all_eq_true.1 h.chars c hmem] at hc
    cases hc
  have hpoint : '.' ∉ s.toList := hchar '.' rfl
  constructor
  · rintro rfl
    exact absurd h.first (by decide)
  · rintro rfl
    exact hpoint (by decide)
  · rintro rfl
    exact hpoint (by decide)
  · exact hchar '/' rfl

/-- The name of a file with an extension is plain if it has no slash. -/
theorem isPlain_append_extension {s : String} (h : '/' ∉ s.toList) : IsPlain (s ++ ".rs") := by
  have hne : ∀ t : String, 's' ∉ t.toList → s ++ ".rs" ≠ t := by
    rintro _ ht rfl
    simp at ht
  refine ⟨hne _ (by decide), hne _ (by decide), hne _ (by decide), ?_⟩
  simpa using h

end FilePath

/-! ## The parts of the path -/

namespace Code

/-- A word has no slash. -/
theorem no_slash_of_isWord {s : String} (h : isWord s) : '/' ∉ s.toList := by
  intro hmem
  unfold isWord at h
  split at h
  · cases h
  · rename_i c rest heq
    obtain ⟨hstart, hrest⟩ := Bool.and_eq_true_iff.1 h
    rw [heq] at hmem
    rcases List.mem_cons.1 hmem with rfl | hmem
    · exact absurd hstart (by decide +kernel)
    · exact absurd (List.all_eq_true.1 hrest _ hmem) (by decide +kernel)

/-- An identifier that is taken from a text has no slash. -/
theorem no_slash_of_takeIdentifier? {cs behind : List Char} {word : String}
    (h : takeIdentifier? cs = some (word, behind)) : '/' ∉ word.toList := by
  unfold takeIdentifier? at h
  split at h
  · split at h
    · rename_i w behind' htake
      split at h
      · cases h
      · obtain ⟨rfl, -⟩ := Prod.mk.inj (Option.some.inj h)
        have hw := no_slash_of_isWord (isWord_of_takeWord? htake)
        simpa using hw
    · cases h
  · exact no_slash_of_isWord (isWord_of_takeWord? h)

/-- An identifier that is read from a text has no slash. -/
theorem no_slash_of_identifier? {s word : String} (h : identifier? s = some word) :
    '/' ∉ word.toList := by
  unfold identifier? at h
  split at h
  · rename_i w behind htake
    split at h
    · obtain rfl := Option.some.inj h
      exact no_slash_of_takeIdentifier? htake
    · cases h
  · cases h

end Code

namespace Bindings

variable {settings : Settings} {name : String} {abi : Abi.Interface} {code : Bytecode}
  {setup : Setup} {b : ContractBindings}

/-- The name of the module has no slash. -/
theorem no_slash_moduleName (h : settings.setup name = .ok setup) :
    '/' ∉ setup.moduleName.toList := by
  have hmodule := (setup_eq_ok h).moduleName
  unfold moduleIdentifier at hmodule
  split at hmodule
  · exact Code.no_slash_of_identifier? (plainIdentifier_eq_ok hmodule).1
  · rw [← Except.ok.inj hmodule]
    exact (FilePath.isPlain_of_isName (Naming.isName_snakeName _)).no_slash

/-- What the segments of a package are separated by. -/
def isPackageSeparator (c : Char) : Bool :=
  c == '.' || c == ':'

/-- The segments of a package are its runs between separators, in lower case. -/
theorem packageSegments_eq (package : String) :
    ContractBindings.packageSegments package =
      (Text.words isPackageSeparator package.toList).map
        fun run => Naming.snakeName (String.ofList run) := by
  have hkept : ∀ piece : List Char, decide (String.ofList piece ≠ "") = !piece.isEmpty := by
    intro piece
    cases piece with
    | nil => rfl
    | cons c piece => simp
  unfold ContractBindings.packageSegments Text.split Text.words
  rw [List.filter_map, List.map_map]
  simp only [Function.comp_def, hkept]
  rfl

/-- The components of the path of generated code. -/
def pathSegments (package module : String) : List String :=
  ContractBindings.packageSegments package ++ [module ++ ".rs"]

/-- The components of the path of generated code are plain if the name of the module has no slash.
-/
theorem isPlain_of_mem_pathSegments {package module : String} (h : '/' ∉ module.toList) :
    ∀ c ∈ pathSegments package module, FilePath.IsPlain c := by
  intro c hc
  rcases List.mem_append.1 hc with hc | hc
  · obtain ⟨s, -, rfl⟩ := List.mem_map.1 hc
    exact FilePath.isPlain_of_isName (Naming.isName_snakeName s)
  · rw [List.mem_singleton.1 hc]
    exact FilePath.isPlain_append_extension h

/-- The package of generated code decides nothing but where it is placed. -/
theorem generate_package (settings : Settings) (package name : String) (abi : Abi.Interface)
    (code : Bytecode) :
    generate { settings with package := package } name abi code =
      (generate settings name abi code).map fun b => { b with package := package } := by
  have hsetup : Settings.setup { settings with package := package } name =
      (settings.setup name).map id := Traversal.eq_map_id _
  apply Traversal.bind_eq_map_bind hsetup
  intro setup
  apply Traversal.bind_eq_map_bind (Traversal.eq_map_id _)
  intro functions
  apply Traversal.bind_eq_map_bind (Traversal.eq_map_id _)
  intro named
  apply Traversal.bind_eq_map_bind (Traversal.eq_map_id _)
  intro d
  apply Traversal.bind_eq_map_bind (Traversal.eq_map_id _)
  intro ms
  apply Traversal.bind_eq_map_bind (Traversal.eq_map_id _)
  intro es
  rfl

/-- The components of the path of generated code are plain. -/
theorem isPlain_of_generate (h : generate settings name abi code = .ok b) :
    ∀ c ∈ pathSegments b.package b.moduleName, FilePath.IsPlain c := by
  obtain ⟨setup, _, _, _, hsetup, -, -, -, -, rfl⟩ := generate_eq_ok h
  exact isPlain_of_mem_pathSegments (no_slash_moduleName hsetup)

/-- The pieces of the path of generated code are its components. -/
theorem pieces_relativePath (h : generate settings name abi code = .ok b) :
    FilePath.pieces b.relativePath = pathSegments b.package b.moduleName := by
  apply FilePath.pieces_foldl_join_empty (by simp)
  exact isPlain_of_generate h

/-- The pieces of the path of generated code are plain. -/
theorem isPlain_pieces (h : generate settings name abi code = .ok b) :
    ∀ c ∈ FilePath.pieces b.relativePath, FilePath.IsPlain c := by
  rw [pieces_relativePath h]
  exact isPlain_of_generate h

/-- Packages with the same runs have the same path. -/
theorem relativePath_of_respaced {package : String}
    (hpackage : Text.Respaced isPackageSeparator b.package.toList package.toList) :
    ContractBindings.relativePath { b with package := package } = b.relativePath := by
  have hwords := Text.words_eq_of_respaced hpackage
  have hsegments : ContractBindings.packageSegments package =
      ContractBindings.packageSegments b.package := by
    rw [packageSegments_eq, packageSegments_eq, hwords]
  unfold ContractBindings.relativePath ContractBindings.pathOf
  dsimp only
  rw [hsegments]
  rfl

/-- Whether a path leads to the file of a module in the directory of a package: one component for
each run of the package, in lower case, then the file, and all of them plain. -/
structure LeadsTo (package module path : String) : Prop where
  relative : FilePath.isAbsolute path = false
  pieces : ∃ runs, (∀ other, Text.Runs isPackageSeparator package.toList other ↔ other = runs) ∧
    FilePath.pieces path =
      runs.map (fun run => Naming.snakeName (String.ofList run)) ++ [module ++ ".rs"]
  /-- Every piece counts. -/
  components : FilePath.components path = FilePath.pieces path
  plain : ∀ c ∈ FilePath.components path, FilePath.IsPlain c

/-- A path with these pieces leads to the file of the module if they are plain. -/
theorem leadsTo_of_pieces {package module path : String}
    (hplain : ∀ c ∈ FilePath.pieces path, FilePath.IsPlain c)
    (hpieces : FilePath.pieces path = pathSegments package module) :
    LeadsTo package module path := by
  have hcomponents := FilePath.components_of_isPlain hplain
  have hruns : ∀ other, Text.Runs isPackageSeparator package.toList other ↔
      other = Text.words isPackageSeparator package.toList := fun _ => Text.runs_iff
  refine ⟨FilePath.isAbsolute_eq_false hplain, ⟨_, hruns, ?_⟩, hcomponents, ?_⟩
  · rw [hpieces, pathSegments, packageSegments_eq]
  · rwa [hcomponents]

/-- The path of generated code leads to the file of its module. -/
theorem leadsTo_relativePath (h : generate settings name abi code = .ok b) :
    LeadsTo b.package b.moduleName b.relativePath :=
  leadsTo_of_pieces (isPlain_pieces h) (pieces_relativePath h)

end Bindings

open Bindings Traversal

/-- The target of a job that has something to write lies below its output directory. -/
theorem Job.target_isBelow {read : String → Except String (List UInt8)} {format : Bool}
    {job : Job} {b : ContractBindings} (h : job.Generates read format b) :
    FilePath.IsBelow job.target job.outputDir := by
  rw [← outputPath_eq_target h]
  obtain ⟨_, -, _, -, _, -, hgenerate⟩ := h
  exact FilePath.isBelow_join (isPlain_pieces hgenerate) job.outputDir

/-- The output stays below its directory. Generated code has a relative path with one plain
component for each run of its package and one for its module, which lies below every directory that
it is joined to; other separators between the same runs give the same path. So wherever files are
kept, what a job writes or tries to write lies below its output directory. -/
theorem output_stays_below :
    (∀ (settings : Settings) (name : String) (abi : Abi.Interface) (code : Bytecode)
      (b : ContractBindings), generate settings name abi code = .ok b →
      LeadsTo settings.package b.moduleName b.relativePath ∧
      (∀ directory, FilePath.IsBelow (FilePath.join directory b.relativePath) directory) ∧
      ∀ package, Text.Respaced isPackageSeparator settings.package.toList package.toList →
        ∃ other, generate { settings with package := package } name abi code = .ok other ∧
          other.relativePath = b.relativePath) ∧
    ∀ (σ : Type) (storage : Storage σ) (formatter : Formatter) (format : Bool) (job : Job)
      (files : σ) (output : Output),
      (job.run storage formatter format files).2.result = .ok output ∨
        output ∈ (job.run storage.noting formatter format (files, [])).1.2 →
      FilePath.IsBelow output.path job.outputDir := by
  constructor
  · intro settings name abi code b h
    have hpackage : b.package = settings.package := by
      obtain ⟨_, _, _, _, -, -, -, -, -, rfl⟩ := generate_eq_ok h
      rfl
    refine ⟨?_, FilePath.isBelow_join (isPlain_pieces h), ?_⟩
    · rw [← hpackage]
      exact leadsTo_relativePath h
    · intro package hrespaced
      rw [← hpackage] at hrespaced
      refine ⟨{ b with package := package }, ?_, relativePath_of_respaced hrespaced⟩
      rw [generate_package, h]
      rfl
  · intro σ storage formatter format job files output h
    rcases h with hresult | hnoted
    · obtain ⟨b, hgenerates, -⟩ := Job.run_success hresult
      rw [Job.path_eq_target hresult]
      exact Job.target_isBelow hgenerates
    · rw [Job.noted_eq_target hnoted]
      obtain ⟨-, hnone⟩ | ⟨b, hgenerates, -⟩ :=
        (job.runsAtomically storage formatter format files).writes
      · rw [hnone] at hnoted
        cases hnoted
      · exact Job.target_isBelow hgenerates

/-- Settings whose package leads up and to the root, if it were taken as a path. -/
def wanderingSettings : Settings := { package := "..:/etc::type./../x" }

/-- A package that would lead out of its directory is one of four directories below it, also with
other separators. -/
theorem output_stays_below_wandering :
    ∃ b, generate wanderingSettings "Token" ⟨[]⟩ .notProvided = .ok b ∧
      b.relativePath = "_etc/type_/__/_x/token.rs" ∧
      FilePath.IsBelow "gen/_etc/type_/__/_x/token.rs" "gen" ∧
      ∃ other, generate { wanderingSettings with package := ".:/etc.type:/:/x" } "Token" ⟨[]⟩
        .notProvided = .ok other ∧ other.relativePath = b.relativePath := by
  have hgenerate : ∃ b, generate wanderingSettings "Token" ⟨[]⟩ .notProvided = .ok b :=
    isOk_iff.1 (by decide +kernel)
  obtain ⟨b, hb⟩ := hgenerate
  have hpaths : (generate wanderingSettings "Token" ⟨[]⟩ .notProvided).toOption.map
      ContractBindings.relativePath = some "_etc/type_/__/_x/token.rs" := by
    decide +kernel
  rw [hb] at hpaths
  have hpath : b.relativePath = "_etc/type_/__/_x/token.rs" := Option.some.inj hpaths
  obtain ⟨-, hbelow, hother⟩ := output_stays_below.1 _ _ _ _ _ hb
  have hgen := hbelow "gen"
  rw [hpath] at hgen
  refine ⟨b, hb, hpath, hgen, hother _ ?_⟩
  have hlast : Text.Respaced isPackageSeparator (['/', 'x'] ++ []) (['/', 'x'] ++ []) :=
    .append_run (by simp [isPackageSeparator]) .nil
  have hslash : Text.Respaced isPackageSeparator
      (['/'] ++ (['.', '.'] ++ ['/', 'x'])) (['/'] ++ ([':'] ++ ['/', 'x'])) :=
    .append_run (by simp [isPackageSeparator])
      (.separators (by simp) (by simp) (by simp [isPackageSeparator]) hlast)
  have htype : Text.Respaced isPackageSeparator
      (['t', 'y', 'p', 'e'] ++ (['.'] ++ ['/', '.', '.', '/', 'x']))
      (['t', 'y', 'p', 'e'] ++ ([':'] ++ ['/', ':', '/', 'x'])) :=
    .append_run (by simp [isPackageSeparator])
      (.separators (by simp) (by simp) (by simp [isPackageSeparator]) hslash)
  have hetc : Text.Respaced isPackageSeparator
      (['/', 'e', 't', 'c'] ++ ([':', ':'] ++ "type./../x".toList))
      (['/', 'e', 't', 'c'] ++ (['.'] ++ "type:/:/x".toList)) :=
    .append_run (by simp [isPackageSeparator])
      (.separators (by simp) (by simp) (by simp [isPackageSeparator]) htype)
  have hseparators : ∀ c ∈ ['.', '.', ':'] ++ ['.', ':'], isPackageSeparator c := by
    simp [isPackageSeparator]
  exact .separators (by simp) (by simp) hseparators hetc

end AbiBindings
