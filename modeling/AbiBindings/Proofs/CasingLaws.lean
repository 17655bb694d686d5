import AbiBindings.Proofs.Identifiers

/-!
# Laws of the cased names

The texts that `safeName` leaves alone are exactly the safe ones (`safeName_eq_self_iff`), and all
names that are made are safe. Changing the case of a name moves underscores and nothing else: its
letters and digits stay in their order (`letters_snakeName`, `letters_pascalName`). A name in lower
case has nothing left to change.
-/

set_option autoImplicit false

namespace AbiBindings.Naming

open Code

/-- The letters and digits of a name: its characters without the underscores. -/
def letters (s : String) : List Char :=
  s.toList.filter (· != '_')

/-- Whether a text is safe: letters, digits and underscores, not led by a digit, neither a lone
underscore nor a reserved word. -/
structure IsSafe (s : String) : Prop where
  name : IsName s.toList
  ne_underscore : s ≠ "_"
  unreserved : ¬ isReserved s

/-! ## Safe names -/

/-- A safe name is one, whatever it is made of. -/
theorem isSafe_safeName (s : String) : IsSafe (safeName s) where
  name := isName_safeName s
  ne_underscore h := not_isReserved_safeName s (by rw [h]; rfl)
  unreserved := not_isReserved_safeName s

/-- The safe texts are those that `safeName` leaves as they are. -/
theorem safeName_eq_self_iff {s : String} : safeName s = s ↔ IsSafe s := by
  constructor
  · intro h
    rw [← h]
    exact isSafe_safeName s
  · rintro ⟨⟨hchars, hfirst⟩, hne, hunreserved⟩
    have hsafe : safeChars s.toList = s.toList := by
      unfold safeChars
      rw [map_safeChar_of_isNameChar hchars]
      split
      · rename_i heq
        rw [heq] at hfirst
        cases hfirst
      · rename_i heq
        exact absurd (String.toList_inj.1 heq) hne
      · rename_i c rest _ heq
        rw [heq] at hfirst ⊢
        exact if_neg (by simpa using hfirst)
    unfold safeName
    rw [hsafe, String.ofList_toList]
    exact if_neg hunreserved

/-- A character that is replaced leaves an underscore. -/
theorem map_safeChar_of_not_mem {cs : List Char} (h : '_' ∉ cs.map safeChar) :
    cs.map safeChar = cs := by
  apply map_eq_self
  intro c hc
  have hne : safeChar c ≠ '_' := by
    intro heq
    apply h
    rw [← heq]
    exact List.mem_map_of_mem hc
  unfold safeChar at hne ⊢
  split at hne
  · exact if_pos ‹_›
  · exact absurd rfl hne

/-- Characters that become safe without an underscore are kept as they are. -/
theorem safeChars_of_not_mem {cs : List Char} (hempty : safeChars cs ≠ "unnamed".toList)
    (h : '_' ∉ safeChars cs) : safeChars cs = cs := by
  have hmap : safeChars cs = cs.map safeChar := by
    revert hempty h
    unfold safeChars
    split
    · intro hempty
      exact absurd rfl hempty
    · intro _ h
      exact absurd List.mem_cons_self h
    · rename_i heq
      split
      · intro _ h
        exact absurd List.mem_cons_self h
      · intro _ _
        exact heq.symm
  rw [hmap] at h ⊢
  exact map_safeChar_of_not_mem h

/-- A safe name without underscores is the text itself, unless it stands for an empty one. -/
theorem safeName_of_not_mem {s : String} (hempty : safeName s ≠ "unnamed")
    (h : '_' ∉ (safeName s).toList) : safeName s = s := by
  unfold safeName at hempty h ⊢
  dsimp only at hempty h ⊢
  split at h
  · simp at h
  · rename_i hunreserved
    rw [if_neg hunreserved] at hempty ⊢
    rw [String.toList_ofList] at h
    have hchars : safeChars s.toList ≠ "unnamed".toList := by
      intro heq
      rw [heq, String.ofList_toList] at hempty
      exact hempty rfl
    rw [safeChars_of_not_mem hchars h, String.ofList_toList]

/-- A name that is not empty keeps its letters and digits when it is made safe. -/
theorem letters_safeName {s : String} (hname : s.toList.all isNameChar) (hne : s ≠ "") :
    letters (safeName s) = letters s := by
  have hchars : (safeChars s.toList).filter (· != '_') = letters s := by
    unfold safeChars letters
    rw [map_safeChar_of_isNameChar hname]
    split
    · rename_i heq
      exact absurd (String.toList_eq_nil_iff.1 heq) hne
    · rename_i heq
      rw [heq]
      rfl
    · rename_i heq
      rw [heq]
      split
      · exact List.filter_cons_of_neg (by decide)
      · rfl
  have hunderscore : "_".toList.filter (· != '_') = [] := rfl
  unfold safeName letters
  dsimp only
  split
  · rw [String.toList_append, List.filter_append, String.toList_ofList, hchars, hunderscore,
      List.append_nil]
    rfl
  · rw [String.toList_ofList, hchars]
    rfl

/-! ## Names in lower case -/

/-- An underscore is no capital. -/
theorem isCapital_underscore : ¬ isCapital '_' := by
  decide

/-- Only an underscore becomes one in small letters. -/
theorem smallOf_bne_underscore (c : Char) : (smallOf c != '_') = (c != '_') := by
  by_cases hcapital : isCapital c
  · have hsmall : smallOf c ≠ '_' := by
      intro heq
      have hletter := isSmall_smallOf hcapital
      rw [heq] at hletter
      exact absurd hletter (by decide)
    have hne : c ≠ '_' := by
      rintro rfl
      exact isCapital_underscore hcapital
    rw [bne_iff_ne.2 hsmall, bne_iff_ne.2 hne]
  · rw [smallOf, if_neg hcapital]

/-- Underscores may be dropped before or behind the change to small letters. -/
theorem filter_map_smallOf (cs : List Char) :
    (cs.map smallOf).filter (· != '_') = (cs.filter (· != '_')).map smallOf := by
  rw [List.filter_map]
  simp only [Function.comp_def, smallOf_bne_underscore]

/-- But for underscores, a name in lower case consists of the small letters of the name. -/
theorem filter_snakeChars (before : Option Char) (cs : List Char) :
    (snakeChars before cs).filter (· != '_') = (cs.filter (· != '_')).map smallOf := by
  rw [← filter_map_smallOf]
  induction cs generalizing before with
  | nil => rfl
  | cons c rest ih =>
    have hunderscore : ['_'].filter (· != '_') = [] := rfl
    rw [snakeChars, List.map_cons]
    split
    · have hstart : ∀ b : Bool, ((if b then ['_', smallOf c] else [smallOf c]) ++
          snakeChars (some c) rest).filter (· != '_') =
            (smallOf c :: snakeChars (some c) rest).filter (· != '_') := by
        intro b
        cases b with
        | false => rfl
        | true => exact List.filter_cons_of_neg (by decide)
      rw [hstart, List.filter_cons, List.filter_cons, ih]
    · rename_i hcapital
      rw [smallOf, if_neg hcapital, List.filter_cons, List.filter_cons, ih]

/-- Whatever is no capital is kept in lower case. -/
theorem mem_snakeChars (before : Option Char) {cs : List Char} {c : Char} (h : c ∈ cs)
    (hcapital : ¬ isCapital c) : c ∈ snakeChars before cs := by
  induction cs generalizing before with
  | nil => cases h
  | cons d rest ih =>
    rw [snakeChars]
    split
    · rename_i hd
      rcases List.mem_cons.1 h with rfl | hrest
      · exact absurd hd hcapital
      · exact List.mem_append_right _ (ih (some d) hrest)
    · rcases List.mem_cons.1 h with rfl | hrest
      · exact List.mem_cons_self
      · exact List.mem_cons_of_mem _ (ih (some d) hrest)

/-- Without capitals there is nothing to change. -/
theorem snakeChars_eq_self (before : Option Char) {cs : List Char}
    (h : ∀ c ∈ cs, ¬ isCapital c) : snakeChars before cs = cs := by
  induction cs generalizing before with
  | nil => rfl
  | cons c rest ih =>
    obtain ⟨hc, hrest⟩ := List.forall_mem_cons.1 h
    rw [snakeChars, if_neg hc, ih (some c) hrest]

/-- A name in lower case has no capitals. -/
theorem not_isCapital_of_mem_snakeName {s : String} :
    ∀ c ∈ (snakeName s).toList, ¬ isCapital c := by
  intro c hc
  have hsnake : isSnakeChar c := List.all_eq_true.1 (all_isSnakeChar_snakeName s) c hc
  obtain hword | hunderscore := Bool.or_eq_true_iff.1 hsnake
  · exact not_isCapital_of_isSmall_or_isDigit hword
  · rw [beq_iff_eq.1 hunderscore]
    exact isCapital_underscore

/-- A name in lower case is its own lower-case form. -/
theorem snakeName_snakeName (s : String) : snakeName (snakeName s) = snakeName s := by
  have hsafe : safeName (snakeName s) = snakeName s :=
    safeName_eq_self_iff.2 (isSafe_safeName _)
  have hchars := snakeChars_eq_self none (@not_isCapital_of_mem_snakeName s)
  rw [snakeName, hsafe, hchars, String.ofList_toList, hsafe]

/-- A name with characters has some in lower case, too. -/
theorem snakeChars_ne_nil (before : Option Char) {cs : List Char} (h : cs ≠ []) :
    snakeChars before cs ≠ [] := by
  cases cs with
  | nil => exact absurd rfl h
  | cons c rest =>
    rw [snakeChars]
    split
    · split <;> simp
    · simp

/-- Lower case keeps letters and digits in their order. -/
theorem letters_snakeName (s : String) :
    letters (snakeName s) = (letters (safeName s)).map smallOf := by
  have hname := isName_safeName s
  have hne : (safeName s).toList ≠ [] := by
    intro hnil
    have hfirst := hname.first
    rw [hnil] at hfirst
    cases hfirst
  have hchars := all_isNameChar_snakeChars none hname.chars
  have hsnake : String.ofList (snakeChars none (safeName s).toList) ≠ "" := by
    rw [Ne, ← String.toList_eq_nil_iff, String.toList_ofList]
    exact snakeChars_ne_nil none hne
  rw [snakeName, letters_safeName (by rwa [String.toList_ofList]) hsnake, letters,
    String.toList_ofList, filter_snakeChars]
  rfl

/-! ## Capitalized names -/

/-- Small letters and digits are their own small letters. -/
theorem map_smallOf_of_isWordChar {cs : List Char} (h : cs.all isWordChar) :
    cs.map smallOf = cs :=
  map_eq_self fun c hc =>
    if_neg (not_isCapital_of_isSmall_or_isDigit (List.all_eq_true.1 h c hc))

/-- In small letters, a capitalized word is the word. -/
theorem map_smallOf_capitalize {word : String} (h : word.toList.all isWordChar) :
    (capitalize word).toList.map smallOf = word.toList := by
  unfold capitalize
  cases hword : word.toList with
  | nil => rfl
  | cons c rest =>
    rw [hword, List.all_cons, Bool.and_eq_true] at h
    obtain ⟨d, hd, -, -, hback⟩ := upperChars_of_isWordChar h.1
    rw [String.toList_ofList, hd, List.singleton_append, List.map_cons, hback,
      map_smallOf_of_isWordChar h.2]

/-- In small letters, joined capitalized words are the words one behind the other. -/
theorem map_smallOf_join_capitalize {words : List String}
    (h : ∀ word ∈ words, word.toList.all isWordChar) :
    (String.join (words.map capitalize)).toList.map smallOf =
      (words.map String.toList).flatten := by
  induction words with
  | nil => rfl
  | cons word words ih =>
    obtain ⟨hword, hwords⟩ := List.forall_mem_cons.1 h
    rw [List.map_cons, String.join_cons, String.toList_append, List.map_append,
      map_smallOf_capitalize hword, ih hwords]
    rfl

/-- The words between underscores hold all letters of a name. -/
theorem flatten_split (s : String) :
    ((Text.split (· == '_') s).map String.toList).flatten = letters s := by
  have hpieces : (Text.split (· == '_') s).map String.toList =
      Text.splitAt (· == '_') s.toList := by
    rw [Text.split, List.map_map]
    simp only [Function.comp_def, String.toList_ofList, List.map_id']
  rw [hpieces, Text.flatten_splitAt]
  rfl

/-- The name of a type keeps letters and digits in their order, if there are any. -/
theorem letters_pascalName {s : String} (h : letters (safeName s) ≠ []) :
    (letters (pascalName s)).map smallOf = (letters (safeName s)).map smallOf := by
  have hwords : ∀ word ∈ Text.split (· == '_') (snakeName s), word.toList.all isWordChar :=
    fun word hword => all_isWordChar_of_mem_split (all_isSnakeChar_snakeName s) hword
  have hname := all_isNameChar_join_capitalize hwords
  have hsmall := map_smallOf_join_capitalize hwords
  rw [flatten_split, letters_snakeName] at hsmall
  have hne : String.join ((Text.split (· == '_') (snakeName s)).map capitalize) ≠ "" := by
    intro hempty
    rw [hempty] at hsmall
    exact h (List.map_eq_nil_iff.1 hsmall.symm)
  rw [pascalName, letters_safeName hname hne, letters, ← filter_map_smallOf, hsmall,
    filter_map_smallOf, letters, List.filter_filter]
  simp only [Bool.and_self]

/-! ## Words that are kept for themselves -/

/-- The words that are read as identifiers against the edition have no underscores and are kept as
safe names. -/
theorem plain_of_mem_lenientWords {word : String} (h : word ∈ lenientWords) :
    word ≠ "unnamed" ∧ '_' ∉ word.toList ∧ safeName word = word := by
  have hwords : ∀ word ∈ lenientWords,
      word ≠ "unnamed" ∧ '_' ∉ word.toList ∧ safeName word = word := by
    decide +kernel
  exact hwords word h

/-- Only such a word becomes one as a safe name. -/
theorem safeName_mem_lenientWords_iff {s : String} :
    safeName s ∈ lenientWords ↔ s ∈ lenientWords := by
  constructor
  · intro h
    obtain ⟨hempty, hletters, -⟩ := plain_of_mem_lenientWords h
    rwa [safeName_of_not_mem hempty hletters] at h
  · intro h
    rw [(plain_of_mem_lenientWords h).2.2]
    exact h

/-- A name without underscores consists of its letters. -/
theorem letters_of_not_mem {s : String} (h : '_' ∉ s.toList) : letters s = s.toList := by
  apply List.filter_eq_self.2
  intro c hc
  rw [bne_iff_ne]
  rintro rfl
  exact h hc

/-- A name in lower case is one of the words only if the text is that word but for capitals. -/
theorem eq_of_snakeName_mem_lenientWords {s : String} (h : snakeName s ∈ lenientWords) :
    snakeName s = String.ofList (s.toList.map smallOf) := by
  obtain ⟨hempty, hletters, -⟩ := plain_of_mem_lenientWords h
  have hplain : snakeName s = String.ofList (snakeChars none (safeName s).toList) :=
    safeName_of_not_mem hempty hletters
  have hunderscore : '_' ∉ (safeName s).toList := by
    intro hmem
    apply hletters
    rw [hplain, String.toList_ofList]
    exact mem_snakeChars none hmem isCapital_underscore
  have hchars := letters_snakeName s
  rw [letters_of_not_mem hletters, letters_of_not_mem hunderscore] at hchars
  have hunnamed : safeName s ≠ "unnamed" := by
    intro hunnamed
    rw [hunnamed] at hchars
    exact hempty (String.toList_inj.1 hchars)
  rw [safeName_of_not_mem hunnamed hunderscore] at hchars
  rw [← hchars, String.ofList_toList]

/-! ## All laws together -/

/-- A name with a letter or digit of ASCII has letters. -/
theorem letters_ne_nil_of_any_isAlphanum {s : String} (h : s.toList.any Char.isAlphanum) :
    letters s ≠ [] := by
  obtain ⟨c, hc, halphanum⟩ := List.any_eq_true.1 h
  have hne : (c != '_') = true := by
    rw [bne_iff_ne]
    rintro rfl
    exact absurd halphanum (by decide)
  exact List.ne_nil_of_mem (List.mem_filter.2 ⟨hc, hne⟩)

/-- For every text, the safe name, the name in lower case and the capitalized name are safe, and a
word that the language keeps for itself in another way comes only from that very word, in lower case
also from the word in capitals. The safe texts are those that stay as they are. A name in lower case
has no capitals and is its own lower-case form. Neither form loses, adds or moves a letter or a
digit of the safe name, unless there is none to capitalize. -/
theorem casing_laws (s : String) :
    (IsSafe (safeName s) ∧ IsSafe (snakeName s) ∧ IsSafe (pascalName s)) ∧
    (safeName s ∈ lenientWords ↔ s ∈ lenientWords) ∧
    (snakeName s ∈ lenientWords → snakeName s = String.ofList (s.toList.map smallOf)) ∧
    pascalName s ∉ lenientWords ∧
    (safeName s = s ↔ IsSafe s) ∧
    (∀ c ∈ (snakeName s).toList, ¬ isCapital c) ∧
    snakeName (snakeName s) = snakeName s ∧
    letters (snakeName s) = (letters (safeName s)).map smallOf ∧
    ((safeName s).toList.any Char.isAlphanum →
      (letters (pascalName s)).map smallOf = (letters (safeName s)).map smallOf) :=
  ⟨⟨isSafe_safeName s, isSafe_safeName _, isSafe_safeName _⟩, safeName_mem_lenientWords_iff,
    eq_of_snakeName_mem_lenientWords, (isFree_pascalName s).strict, safeName_eq_self_iff,
    not_isCapital_of_mem_snakeName, snakeName_snakeName s, letters_snakeName s,
    fun h => letters_pascalName (letters_ne_nil_of_any_isAlphanum h)⟩

/-- The word `try` is safe and stays as it is, and other capitals do not keep it from appearing. -/
theorem casing_laws_try :
    (safeName "try" = "try" ∧ snakeName "TRY" = "try" ∧ pascalName "try" = "Try") ∧
      IsSafe "try" ∧ (letters (pascalName "getHTTPValue")).map smallOf = "gethttpvalue".toList := by
  have hnames : safeName "try" = "try" ∧ snakeName "TRY" = "try" ∧ pascalName "try" = "Try" := by
    decide +kernel
  obtain ⟨-, -, -, -, hsafe, -, -, -, -⟩ := casing_laws "try"
  obtain ⟨-, -, -, -, -, -, -, -, hpascal⟩ := casing_laws "getHTTPValue"
  refine ⟨hnames, hsafe.1 hnames.1, ?_⟩
  rw [hpascal (by decide +kernel)]
  decide +kernel

end AbiBindings.Naming
