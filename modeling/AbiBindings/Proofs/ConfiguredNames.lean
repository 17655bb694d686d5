import AbiBindings.Proofs.CasingLaws
import AbiBindings.Proofs.OutputPath
import AbiBindings.Proofs.WrittenNames

/-!
# Configured names

A name in the settings is read as one identifier with a byte order mark, blanks and comments around
it. The raw form `r#name` is to be refused, but that is decided on the text as it stands, before
anything is passed over. `plainIdentifier_eq_ok_iff` says which texts are accepted, and as what: the
name is raw exactly if the raw form stands behind something that the reader passes over
(`configured_names_are_read`).
-/

set_option autoImplicit false

namespace AbiBindings.Code

/-- Where the reader of identifiers begins: behind a byte order mark, blanks and comments. -/
def readFrom (text : String) : List Char :=
  skipTrivia (dropByteOrderMark text.toList)

/-- Whether characters begin in the way of the raw form. -/
def BeginsRaw (cs : List Char) : Prop :=
  ['r', '#'] <+: cs

/-- Whether a text begins as a raw identifier is decided by its first two characters. -/
instance (cs : List Char) : Decidable (BeginsRaw cs) :=
  inferInstanceAs (Decidable (['r', '#'] <+: cs))

/-- Whether a text is an identifier in the raw form. -/
def IsRaw (s : String) : Prop :=
  ∃ word, isWord word ∧ word ∉ wordsWithoutRawForm ∧ s = "r#" ++ word

/-! ## Where trivia end -/

/-- A character of an identifier separates nothing. -/
theorem not_isSeparator_of_isIdentifierContinue {c : Char} (h : Text.isIdentifierContinue c) :
    ¬ isSeparator c := by
  have hblanks : ∀ n ∈ [9, 10, 11, 12, 13, 0x20, 0x85, 0xA0, 0x1680, 0x2000, 0x2001, 0x2002, 0x2003,
      0x2004, 0x2005, 0x2006, 0x2007, 0x2008, 0x2009, 0x200A, 0x2028, 0x2029, 0x202F, 0x205F,
      0x3000], Text.isIdentifierContinue (Char.ofNat n) = false := by
    decide +kernel
  intro hseparator
  rw [isSeparator, Bool.or_eq_true, Bool.or_eq_true, beq_iff_eq, beq_iff_eq] at hseparator
  obtain (hblank | rfl) | rfl := hseparator
  · have hmem : c.toNat ∈ [9, 10, 11, 12, 13, 0x20, 0x85, 0xA0, 0x1680, 0x2000, 0x2001, 0x2002,
        0x2003, 0x2004, 0x2005, 0x2006, 0x2007, 0x2008, 0x2009, 0x200A, 0x2028, 0x2029, 0x202F,
        0x205F, 0x3000] := by
      simp only [Text.isBlank, Bool.or_eq_true, Bool.and_eq_true, beq_iff_eq,
        decide_eq_true_eq] at hblank
      simp only [List.mem_cons, List.not_mem_nil, or_false]
      omega
    have hfalse := hblanks c.toNat hmem
    rw [Char.ofNat_toNat, h] at hfalse
    cases hfalse
  · exact absurd h (by decide +kernel)
  · exact absurd h (by decide +kernel)

/-- Blanks and comments begin with a separator or a slash. -/
theorem skipTrivia_cons_of_not {c : Char} (hseparator : ¬ isSeparator c) (hslash : c ≠ '/')
    (rest : List Char) : skipTrivia (c :: rest) = c :: rest := by
  have hnone : skipOne? (c :: rest) = none := by
    unfold skipOne?
    split
    · rename_i heq
      exact absurd (List.cons.inj heq).1 hslash
    · rename_i heq
      exact absurd (List.cons.inj heq).1 hslash
    · rename_i heq
      obtain ⟨rfl, rfl⟩ := List.cons.inj heq
      exact if_neg hseparator
    · rfl
  rw [skipTrivia]
  split
  · rename_i heq
    rw [hnone] at heq
    cases heq
  · rfl

/-- What consists of blanks and comments alone does not go on with the word before it. -/
theorem not_isIdentifierContinue_of_skipTrivia {behind : List Char} (h : skipTrivia behind = []) :
    ∀ c ∈ behind.head?, ¬ Text.isIdentifierContinue c := by
  intro c hc hcontinue
  cases behind with
  | nil => cases hc
  | cons d rest =>
    obtain rfl : d = c := Option.some.inj hc
    have hslash : d ≠ '/' := by
      rintro rfl
      exact absurd hcontinue (by decide +kernel)
    rw [skipTrivia_cons_of_not (not_isSeparator_of_isIdentifierContinue hcontinue) hslash] at h
    cases h

/-! ## Words and the raw form -/

/-- A word is taken up to the first character that no identifier has. -/
theorem takeWord?_of_isWord {word : String} {behind : List Char} (hword : isWord word)
    (hbehind : ∀ c ∈ behind.head?, ¬ Text.isIdentifierContinue c) :
    takeWord? (word.toList ++ behind) = some (word, behind) := by
  unfold isWord at hword
  cases hcs : word.toList with
  | nil =>
    rw [hcs] at hword
    cases hword
  | cons c cs =>
    rw [hcs, Bool.and_eq_true] at hword
    obtain ⟨hstart, hcontinue⟩ := hword
    have hall : ∀ d ∈ cs, Text.isIdentifierContinue d := List.all_eq_true.1 hcontinue
    -- the word ends where it ends in the text: what stands behind it does not go on with it
    have htake : behind.takeWhile Text.isIdentifierContinue = [] := by
      cases behind with
      | nil => rfl
      | cons d rest => exact List.takeWhile_cons_of_neg (hbehind d rfl)
    have hdrop : behind.dropWhile Text.isIdentifierContinue = behind := by
      cases behind with
      | nil => rfl
      | cons d rest => exact List.dropWhile_cons_of_neg (hbehind d rfl)
    rw [List.cons_append, takeWord?, if_pos hstart, List.takeWhile_append_of_pos hall,
      List.dropWhile_append_of_pos hall, htake, hdrop, List.append_nil, ← hcs, String.ofList_toList]

/-- A raw identifier is no word, for its mark. -/
theorem not_isWord_of_isRaw {s : String} (h : IsRaw s) : ¬ isWord s := by
  obtain ⟨word, -, -, rfl⟩ := h
  have hhash : Text.isIdentifierContinue '#' = false := by decide +kernel
  unfold isWord
  rw [String.toList_append]
  show ¬ (Text.isIdentifierStart 'r' && ('#' :: word.toList).all Text.isIdentifierContinue) = true
  simp [hhash]

/-- A raw identifier is not reserved. -/
theorem not_isReserved_of_isRaw {s : String} (h : IsRaw s) : ¬ isReserved s := by
  obtain ⟨word, -, -, rfl⟩ := h
  have hwords : reservedWords.all fun word => !word.toList.contains '#' := by decide +kernel
  intro hreserved
  rw [isReserved, List.contains_iff_mem] at hreserved
  have hhash := List.all_eq_true.1 hwords _ hreserved
  rw [String.toList_append] at hhash
  simp at hhash

/-- What is read at the front of a text is a word, or the raw form if the text begins with it. -/
theorem takeIdentifier?_cases {cs behind : List Char} {word : String}
    (h : takeIdentifier? cs = some (word, behind)) :
    (isWord word ∧ ¬ BeginsRaw cs) ∨ (IsRaw word ∧ BeginsRaw cs) := by
  unfold takeIdentifier? at h
  split at h
  · rename_i rest
    split at h
    · rename_i w behind' htake
      split at h
      · cases h
      · rename_i hform
        obtain ⟨rfl, -⟩ := Prod.mk.inj (Option.some.inj h)
        rw [List.contains_iff_mem] at hform
        exact Or.inr ⟨⟨w, isWord_of_takeWord? htake, hform, rfl⟩, rest, rfl⟩
    · cases h
  · rename_i hnot
    refine Or.inl ⟨isWord_of_takeWord? h, ?_⟩
    rintro ⟨rest, rfl⟩
    exact hnot rest rfl

/-- A word is taken as an identifier if only trivia follow. -/
theorem takeIdentifier?_of_isWord {word : String} {behind : List Char} (hword : isWord word)
    (hbehind : skipTrivia behind = []) :
    takeIdentifier? (word.toList ++ behind) = some (word, behind) := by
  have htake := takeWord?_of_isWord hword (not_isIdentifierContinue_of_skipTrivia hbehind)
  unfold takeIdentifier?
  split
  · -- a word that begins the raw form is the letter alone, with a hash sign behind it
    rename_i rest heq
    have hhash : Text.isIdentifierContinue '#' = false := by decide +kernel
    exfalso
    unfold isWord at hword
    cases hcs : word.toList with
    | nil =>
      rw [hcs] at hword
      cases hword
    | cons c cs =>
      rw [hcs, Bool.and_eq_true] at hword
      rw [hcs, List.cons_append] at heq
      obtain ⟨-, heq⟩ := List.cons.inj heq
      cases cs with
      | nil =>
        rw [List.nil_append] at heq
        have hseparator : ¬ isSeparator '#' := by decide
        rw [heq, skipTrivia_cons_of_not hseparator (by decide)] at hbehind
        cases hbehind
      | cons d ds =>
        obtain ⟨rfl, -⟩ := List.cons.inj heq
        rw [List.all_cons, hhash] at hword
        cases hword.2
  · exact htake

/-- A raw identifier is taken as one if only trivia follow. -/
theorem takeIdentifier?_of_isRaw {word : String} {behind : List Char} (hword : IsRaw word)
    (hbehind : skipTrivia behind = []) :
    takeIdentifier? (word.toList ++ behind) = some (word, behind) := by
  obtain ⟨w, hw, hform, rfl⟩ := hword
  have htake := takeWord?_of_isWord hw (not_isIdentifierContinue_of_skipTrivia hbehind)
  have hfront : ("r#" ++ w).toList ++ behind = 'r' :: '#' :: (w.toList ++ behind) := by
    rw [String.toList_append]
    rfl
  have hcontains : wordsWithoutRawForm.contains w = false := by simpa using hform
  rw [hfront, takeIdentifier?, htake]
  simp only [hcontains, Bool.false_eq_true, if_false]

/-- A text is read as an identifier exactly if that stands where the reader begins, with nothing but
blanks and comments behind it. -/
theorem identifier?_eq_some_iff {text word : String} :
    identifier? text = some word ↔
      (∃ behind, readFrom text = word.toList ++ behind ∧ skipTrivia behind = []) ∧
        (IsIdentifier word ∨ IsRaw word) := by
  constructor
  · intro h
    have hunreserved := not_isReserved_of_identifier? h
    unfold identifier? at h
    split at h
    · rename_i w behind htake
      split at h
      · rename_i hend
        obtain rfl := Option.some.inj h
        have hbehind : skipTrivia behind = [] := by simpa using (Bool.and_eq_true_iff.1 hend).1
        refine ⟨⟨behind, takeIdentifier?_append htake, hbehind⟩, ?_⟩
        obtain ⟨hword, -⟩ | ⟨hraw, -⟩ := takeIdentifier?_cases htake
        · exact Or.inl ⟨hword, hunreserved⟩
        · exact Or.inr hraw
      · cases h
    · cases h
  · rintro ⟨⟨behind, hfront, hbehind⟩, hshape⟩
    have hread : takeIdentifier? (readFrom text) = some (word, behind) ∧ ¬ isReserved word := by
      rw [hfront]
      obtain hplain | hraw := hshape
      · exact ⟨takeIdentifier?_of_isWord hplain.word hbehind, hplain.unreserved⟩
      · exact ⟨takeIdentifier?_of_isRaw hraw hbehind, not_isReserved_of_isRaw hraw⟩
    obtain ⟨htake, hunreserved⟩ := hread
    rw [readFrom] at htake
    rw [identifier?, htake]
    simp [hbehind, hunreserved]

end AbiBindings.Code

namespace AbiBindings.Bindings

open Code

/-- Whether a configured text stands for an identifier: where the reader begins there is nothing but
the identifier with blanks and comments behind it, and the text itself does not begin in the way of
the raw form. -/
structure AcceptedAs (text word : String) : Prop where
  reads : ∃ behind, readFrom text = word.toList ++ behind ∧ skipTrivia behind = []
  shape : IsIdentifier word ∨ IsRaw word
  notRaw : ¬ BeginsRaw text.toList

/-- A text is accepted as a configured name exactly if an identifier is read from it. -/
theorem plainIdentifier_eq_ok_iff {what text word : String} :
    plainIdentifier what text = .ok word ↔ AcceptedAs text word := by
  constructor
  · intro h
    obtain ⟨hread, hraw⟩ := plainIdentifier_eq_ok h
    obtain ⟨hreads, hshape⟩ := identifier?_eq_some_iff.1 hread
    refine ⟨hreads, hshape, ?_⟩
    rwa [List.isPrefixOf_iff_prefix] at hraw
  · rintro ⟨hreads, hshape, hraw⟩
    have hread := identifier?_eq_some_iff.2 ⟨hreads, hshape⟩
    unfold BeginsRaw at hraw
    rw [← List.isPrefixOf_iff_prefix] at hraw
    rw [plainIdentifier, hread]
    exact if_neg hraw

namespace AcceptedAs

variable {text word : String}

/-- The identifier is raw exactly if the reader begins at the raw form. -/
theorem isRaw_iff (h : AcceptedAs text word) : IsRaw word ↔ BeginsRaw (readFrom text) := by
  obtain ⟨behind, hfront, hbehind⟩ := h.reads
  have htake : takeIdentifier? (readFrom text) = some (word, behind) := by
    rw [hfront]
    obtain hplain | hraw := h.shape
    · exact takeIdentifier?_of_isWord hplain.word hbehind
    · exact takeIdentifier?_of_isRaw hraw hbehind
  obtain ⟨hword, hfront⟩ | ⟨hraw, hfront⟩ := takeIdentifier?_cases htake
  · exact iff_of_false (fun hraw => not_isWord_of_isRaw hraw hword) hfront
  · exact iff_of_true hraw hfront

/-- An accepted name is a plain identifier unless it begins as a raw one behind the trivia. -/
theorem isIdentifier_iff (h : AcceptedAs text word) :
    IsIdentifier word ↔ ¬ BeginsRaw (readFrom text) := by
  rw [← h.isRaw_iff]
  constructor
  · exact fun hplain hraw => not_isWord_of_isRaw hraw hplain.word
  · exact fun hraw => h.shape.resolve_right hraw

/-- The text consists of the identifier and of what is passed over before it and behind it. -/
theorem exists_parts (h : AcceptedAs text word) :
    ∃ before behind, text.toList = before ++ word.toList ++ behind ∧
      readFrom text = word.toList ++ behind ∧ skipTrivia behind = [] := by
  obtain ⟨behind, hfront, hbehind⟩ := h.reads
  obtain ⟨before, hbefore⟩ := (skipTrivia_suffix _).trans (dropByteOrderMark_suffix text.toList)
  refine ⟨before, behind, ?_, hfront, hbehind⟩
  rw [List.append_assoc, ← hfront]
  exact hbefore.symm

/-- Before a raw identifier something is passed over. -/
theorem exists_before (h : AcceptedAs text word) (hraw : IsRaw word) :
    ∃ before behind, before ≠ [] ∧ text.toList = before ++ word.toList ++ behind := by
  obtain ⟨before, behind, hparts, hfront, -⟩ := h.exists_parts
  refine ⟨before, behind, ?_, hparts⟩
  rintro rfl
  have hbegins := h.isRaw_iff.1 hraw
  rw [hfront] at hbegins
  exact h.notRaw (by rwa [hparts, List.nil_append])

end AcceptedAs

/-! ## The names of bindings -/

variable {settings : Settings} {name : String} {abi : Abi.Interface} {code : Bytecode}
  {b : ContractBindings}

/-- What the settings make of the names of bindings: each of them is what a configured text is
accepted as, but for the name of the module if none is configured. That name is plain, and the file
is called after the module in either case. -/
structure NamedAfter (settings : Settings) (name : String) (b : ContractBindings) : Prop where
  contract : AcceptedAs (settings.contractName.getD name) b.contractName
  runtime : AcceptedAs settings.runtime b.setup.runtime
  chosenModule : ∀ text, settings.moduleName = some text → AcceptedAs text b.moduleName
  madeModule : settings.moduleName = none →
    b.moduleName = Naming.snakeName (settings.contractName.getD name) ∧
      IsIdentifier b.moduleName ∧ (b.moduleName ∈ lenientWords → b.moduleName =
        String.ofList ((settings.contractName.getD name).toList.map Naming.smallOf))
  file : (FilePath.pieces b.relativePath).getLast? = some (b.moduleName ++ ".rs")

/-- Bindings are named after the settings and the name of the contract. -/
theorem namedAfter_of_generate (h : generate settings name abi code = .ok b) :
    NamedAfter settings name b := by
  have hpieces := pieces_relativePath h
  obtain ⟨setup, _, _, _, hsetup, -, -, -, -, rfl⟩ := generate_eq_ok h
  have hof := setup_eq_ok hsetup
  have hmodule := hof.moduleName
  constructor
  · exact plainIdentifier_eq_ok_iff.1 hof.contractName
  · exact plainIdentifier_eq_ok_iff.1 hof.runtime
  · intro text htext
    rw [htext] at hmodule
    exact plainIdentifier_eq_ok_iff.1 hmodule
  · intro hnone
    rw [hnone] at hmodule
    have hname := Except.ok.inj hmodule
    rw [ContractBindings.moduleName, ← hname]
    refine ⟨rfl, (Naming.isMade_snakeName _).isIdentifier, ?_⟩
    exact Naming.eq_of_snakeName_mem_lenientWords
  · rw [hpieces, pathSegments, List.getLast?_append, List.getLast?_singleton]
    rfl

/-- The texts of the settings that name something, the name of the contract first. -/
def configuredTexts (settings : Settings) (name : String) : List String :=
  settings.contractName.getD name :: settings.runtime :: settings.moduleName.toList

/-- The names are plain exactly if the reader begins at a raw form in none of the texts. -/
theorem NamedAfter.isIdentifier_iff (h : NamedAfter settings name b) :
    (IsIdentifier b.contractName ∧ IsIdentifier b.setup.runtime ∧ IsIdentifier b.moduleName) ↔
      ∀ text ∈ configuredTexts settings name, ¬ BeginsRaw (readFrom text) := by
  unfold configuredTexts
  rw [List.forall_mem_cons, List.forall_mem_cons, h.contract.isIdentifier_iff,
    h.runtime.isIdentifier_iff]
  cases hmodule : settings.moduleName with
  | none =>
    have hplain : IsIdentifier b.moduleName := (h.madeModule hmodule).2.1
    simp [hplain]
  | some text =>
    rw [(h.chosenModule text hmodule).isIdentifier_iff]
    simp

/-- The words that are read as identifiers against the edition are accepted as names. -/
theorem acceptedAs_of_mem_lenientWords {word : String} (h : word ∈ lenientWords) :
    AcceptedAs word word := by
  have hread : ∀ word ∈ lenientWords, (plainIdentifier "" word).toOption = some word := by
    decide +kernel
  apply (@plainIdentifier_eq_ok_iff "" word word).1
  have hword := hread word h
  cases hresult : plainIdentifier "" word with
  | error e =>
    rw [hresult] at hword
    cases hword
  | ok accepted =>
    rw [hresult] at hword
    exact congrArg Except.ok (Option.some.inj hword)

/-- A configured name is accepted exactly if the reader finds one identifier in it and it does not
begin with the raw form itself. So it is plain, unless the raw form stands where the reader begins,
behind a byte order mark, a blank or a comment: then it is the raw identifier. Of the words that the
language keeps for itself, those that the reader takes for identifiers are accepted. The contract,
the runtime crate and a configured module have names that are accepted; any other module has a plain
name, one of those words only if that is the name of the contract but for capitals. So the names of
bindings are plain exactly if the reader begins at a raw form in none of the configured texts. -/
theorem configured_names_are_read (what text word : String) :
    (plainIdentifier what text = .ok word ↔ AcceptedAs text word) ∧
    (AcceptedAs text word →
      (IsIdentifier word ↔ ¬ BeginsRaw (readFrom text)) ∧
      (IsRaw word ↔ BeginsRaw (readFrom text)) ∧
      (IsRaw word → ∃ before behind, before ≠ [] ∧
        text.toList = before ++ word.toList ++ behind)) ∧
    (word ∈ lenientWords → AcceptedAs word word) ∧
    ∀ (settings : Settings) (name : String) (abi : Abi.Interface) (code : Bytecode)
      (b : ContractBindings), generate settings name abi code = .ok b →
        NamedAfter settings name b ∧
        ((IsIdentifier b.contractName ∧ IsIdentifier b.setup.runtime ∧
            IsIdentifier b.moduleName) ↔
          ∀ text ∈ configuredTexts settings name, ¬ BeginsRaw (readFrom text)) := by
  refine ⟨plainIdentifier_eq_ok_iff, ?_, acceptedAs_of_mem_lenientWords, ?_⟩
  · intro h
    exact ⟨h.isIdentifier_iff, h.isRaw_iff, h.exists_before⟩
  · intro settings name abi code b h
    have hnamed := namedAfter_of_generate h
    exact ⟨hnamed, hnamed.isIdentifier_iff⟩

/-- Settings that name the module behind a comment, in the raw form. -/
def hiddenSettings : Settings := { moduleName := some "/**/r#fn" }

/-- A module can have a raw name, and its file too. -/
theorem configured_names_are_read_hidden :
    ∃ b, generate hiddenSettings "Token" ⟨[]⟩ .notProvided = .ok b ∧ IsRaw b.moduleName ∧
      ¬ IsIdentifier b.moduleName ∧
      (FilePath.pieces b.relativePath).getLast? = some (b.moduleName ++ ".rs") := by
  have hgenerate : ∃ b, generate hiddenSettings "Token" ⟨[]⟩ .notProvided = .ok b :=
    Traversal.isOk_iff.1 (by decide +kernel)
  obtain ⟨b, hb⟩ := hgenerate
  obtain ⟨-, hshape, -, hnamed⟩ :=
    configured_names_are_read "module name" "/**/r#fn" b.moduleName
  obtain ⟨hof, -⟩ := hnamed _ _ _ _ _ hb
  obtain ⟨hplain, hraw, -⟩ := hshape (hof.chosenModule "/**/r#fn" rfl)
  have hbegins : BeginsRaw (readFrom "/**/r#fn") := by decide +kernel
  exact ⟨b, hb, hraw.2 hbegins, fun hidentifier => hplain.1 hidentifier hbegins, hof.file⟩

end AbiBindings.Bindings
