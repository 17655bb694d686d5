import AbiBindings.Bindings.Source
import AbiBindings.Proofs.EventIdentifier
import AbiBindings.Proofs.InputNames

/-!
# Names are identifiers

A word of the language has small letters only behind its first character. So a name that something
else was put behind, be it an underscore, a digit or a capital, is no word of the language, and what
remains are the safe names, which get an underscore if they are reserved.

Four words escape that check, because the reader of identifiers takes them for names. A name made by
the generator is one of them only if it is the lower-case form of a text (`IsMade`).
-/

set_option autoImplicit false

namespace AbiBindings.Code

/-- The words that the language keeps for itself although they are read as identifiers. -/
def lenientWords : List String := ["async", "await", "dyn", "try"]

/-- Whether a text is an identifier: a word that is not reserved. -/
structure IsIdentifier (s : String) : Prop where
  word : isWord s
  unreserved : ¬ isReserved s

end AbiBindings.Code

namespace AbiBindings.Naming

open Abi Code
open Text (isDigit all_isDigit_toString)

/-- Whether a name is as the generator makes them: not reserved, and a word that the language keeps
for itself in another way only if it is the lower-case form of a text. -/
structure IsMade (s : String) : Prop where
  name : IsName s.toList
  unreserved : ¬ isReserved s
  lenient : s ∈ lenientWords → ∃ text, s = snakeName text

/-- Whether a name is no word that the language keeps for itself in any way. -/
structure IsFree (s : String) : Prop where
  name : IsName s.toList
  unreserved : ¬ isReserved s
  strict : s ∉ lenientWords

/-- A name that is no word of the language is as the generator makes them. -/
theorem IsFree.isMade {s : String} (h : IsFree s) : IsMade s :=
  ⟨h.name, h.unreserved, fun hmem => absurd hmem h.strict⟩

/-- A name as the generator makes them is an identifier. -/
theorem IsMade.isIdentifier {s : String} (h : IsMade s) : IsIdentifier s :=
  ⟨isWord_of_isName h.name, h.unreserved⟩

/-- A text in which something other than a small letter stands behind the first character is no word
of the language. -/
theorem not_mem_of_any_tail {s : String} (h : s.toList.tail.any fun c => !isSmall c) :
    s ∉ reservedWords ++ lenientWords := by
  have hwords : (reservedWords ++ lenientWords).all fun word =>
      !word.toList.tail.any fun c => !isSmall c := by
    decide +kernel
  intro hmem
  have hs := List.all_eq_true.1 hwords s hmem
  rw [h] at hs
  cases hs

/-- A name with something behind it that is not all in small letters is free. -/
theorem isFree_append {s t : String} (hs : IsName s.toList) (ht : t.toList.all isNameChar)
    (hany : t.toList.any fun c => !isSmall c) : IsFree (s ++ t) := by
  have hname : IsName (s ++ t).toList := by
    rw [String.toList_append]
    exact hs.append ht
  have htail : (s ++ t).toList.tail.any fun c => !isSmall c := by
    rw [String.toList_append]
    cases hcs : s.toList with
    | nil =>
      have hfirst := hs.first
      rw [hcs] at hfirst
      cases hfirst
    | cons c cs => rw [List.cons_append, List.tail_cons, List.any_append, hany, Bool.or_true]
  have hmem := not_mem_of_any_tail htail
  rw [List.mem_append, not_or, ← List.contains_iff_mem] at hmem
  exact ⟨hname, hmem.1, hmem.2⟩

/-! ## Safe names -/

/-- A safe name is not reserved. -/
theorem not_isReserved_safeName (s : String) : ¬ isReserved (safeName s) := by
  unfold safeName
  dsimp only
  split
  · rename_i hreserved
    have hescaped : reservedWords.all fun word => !isReserved (word ++ "_") := by decide +kernel
    rw [isReserved, List.contains_iff_mem] at hreserved
    simpa using List.all_eq_true.1 hescaped _ hreserved
  · assumption

/-- A name in lower case is as the generator makes them. -/
theorem isMade_snakeName (s : String) : IsMade (snakeName s) :=
  ⟨isName_snakeName s, not_isReserved_safeName _, fun _ => ⟨s, rfl⟩⟩

/-! ## Capitalized words -/

/-- Whether a character may stand in a word in lower case. -/
def isWordChar (c : Char) : Bool :=
  isSmall c || isDigit c

/-- Whether a character may stand in a name in lower case. -/
def isSnakeChar (c : Char) : Bool :=
  isWordChar c || c == '_'

/-- The small letter of a capital is small. -/
theorem isSmall_smallOf {c : Char} (h : isCapital c) : isSmall (smallOf c) := by
  have hletters : ∀ n : Fin 26, isSmall (smallOf (Char.ofNat (65 + n))) := by decide +kernel
  obtain ⟨n, rfl⟩ := exists_ofNat_of_range ((isCapital_iff c).1 h)
  exact hletters n

/-- In lower case, the characters of names are small letters, digits and underscores. -/
theorem all_isSnakeChar_snakeChars (before : Option Char) {cs : List Char}
    (h : cs.all isNameChar) : (snakeChars before cs).all isSnakeChar := by
  induction cs generalizing before with
  | nil => rfl
  | cons c cs ih =>
    rw [List.all_cons, Bool.and_eq_true] at h
    obtain ⟨hc, hcs⟩ := h
    have hrest := ih (some c) hcs
    rw [snakeChars]
    split
    · rename_i hcapital
      have hsmall := isSmall_smallOf hcapital
      have hunderscore : isSnakeChar '_' := rfl
      split
      · simp [isSnakeChar, isWordChar, hsmall, hrest]
      · simp [isSnakeChar, isWordChar, hsmall, hrest]
    · rename_i hcapital
      have hsnake : isSnakeChar c := by
        simpa [isSnakeChar, isWordChar, isNameChar, hcapital] using hc
      rw [List.all_cons, hsnake, hrest]
      rfl

/-- A character of names is safe. -/
theorem safeChar_of_isNameChar {c : Char} (h : isNameChar c) : safeChar c = c := by
  unfold safeChar
  rw [if_pos]
  simpa [isNameChar] using h

/-- A list stays as it is if all its characters do. -/
theorem map_eq_self {f : Char → Char} {cs : List Char} (h : ∀ c ∈ cs, f c = c) :
    cs.map f = cs := by
  have hsame : cs.map f = cs.map id := List.map_congr_left h
  rw [hsame, List.map_id]

/-- Characters of names are safe. -/
theorem map_safeChar_of_isNameChar {cs : List Char} (h : cs.all isNameChar) :
    cs.map safeChar = cs :=
  map_eq_self fun c hc => safeChar_of_isNameChar (List.all_eq_true.1 h c hc)

/-- Where `safeName` finds characters of names, it adds no others than underscores, unless there is
nothing to name. -/
theorem all_safeName {p : Char → Bool} {s : String} (hname : s.toList.all isNameChar)
    (h : s.toList.all p) (hunderscore : p '_') (hunnamed : "unnamed".toList.all p) :
    (safeName s).toList.all p := by
  have hchars : (safeChars s.toList).all p := by
    unfold safeChars
    rw [map_safeChar_of_isNameChar hname]
    split
    · exact hunnamed
    · simp [hunderscore]
    · rename_i heq
      rw [heq] at h
      split
      · rw [List.all_cons, hunderscore, h]
        rfl
      · exact h
  unfold safeName
  dsimp only
  split
  · simp [hchars, hunderscore]
  · simpa using hchars

/-- The characters of names in lower case are characters of names. -/
theorem isNameChar_of_isSnakeChar {c : Char} (h : isSnakeChar c) : isNameChar c := by
  simp only [isSnakeChar, isWordChar, Bool.or_eq_true] at h
  obtain (h | h) | h := h <;> simp [isNameChar, h]

/-- In lower case, characters of names become characters of names. -/
theorem all_isNameChar_snakeChars (before : Option Char) {cs : List Char}
    (h : cs.all isNameChar) : (snakeChars before cs).all isNameChar := by
  have hsnake := all_isSnakeChar_snakeChars before h
  rw [List.all_eq_true] at hsnake ⊢
  exact fun c hc => isNameChar_of_isSnakeChar (hsnake c hc)

/-- A name in lower case has no capitals. -/
theorem all_isSnakeChar_snakeName (s : String) : (snakeName s).toList.all isSnakeChar := by
  have hsafe := (isName_safeName s).chars
  have hsnake := all_isSnakeChar_snakeChars none hsafe
  have hname := all_isNameChar_snakeChars none hsafe
  have hunderscore : isSnakeChar '_' := rfl
  have hunnamed : "unnamed".toList.all isSnakeChar := by decide
  rw [← String.toList_ofList (l := snakeChars none (safeName s).toList)] at hsnake hname
  exact all_safeName hname hsnake hunderscore hunnamed

/-- A digit is no small letter. -/
theorem not_isSmall_of_isDigit {c : Char} (h : isDigit c) : ¬ isSmall c := by
  rw [isDigit_iff] at h
  rw [isSmall_iff]
  omega

/-- A small letter gets a capital, and a digit stays as it is. -/
theorem upperChars_of_isWordChar {c : Char} (h : isWordChar c) :
    ∃ d, Text.upperChars c = [d] ∧ isNameChar d ∧ ¬ isSmall d ∧ smallOf d = c := by
  obtain hsmall | hdigit := Bool.or_eq_true_iff.1 h
  · obtain ⟨d, hd, hcapital, hback⟩ := exists_capital hsmall
    have hname : isNameChar d := by simp [isNameChar, hcapital]
    refine ⟨d, hd, hname, fun hd => ?_, hback⟩
    exact not_isCapital_of_isSmall_or_isDigit (by rw [hd]; rfl) hcapital
  · have hdigits : ∀ n : Fin 10,
        Text.upperChars (Char.ofNat (48 + n)) = [Char.ofNat (48 + n)] := by
      decide +kernel
    have hname : isNameChar c := by simp [isNameChar, hdigit]
    have hsmall := not_isSmall_of_isDigit hdigit
    have hback : smallOf c = c := if_neg (not_isCapital_of_isSmall_or_isDigit h)
    obtain ⟨n, rfl⟩ := exists_ofNat_of_range ((isDigit_iff c).1 hdigit)
    exact ⟨_, hdigits n, hname, hsmall, hback⟩

/-- Whether a text does not begin with a small letter. -/
def NoSmallStart (s : String) : Prop :=
  ∀ c ∈ s.toList.head?, ¬ isSmall c

/-- A capitalized word does not begin with a small letter. -/
theorem noSmallStart_capitalize {word : String} (h : word.toList.all isWordChar) :
    NoSmallStart (capitalize word) := by
  unfold NoSmallStart capitalize
  cases hword : word.toList with
  | nil => simp
  | cons c rest =>
    rw [hword, List.all_cons, Bool.and_eq_true] at h
    obtain ⟨d, hd, -, hsmall, -⟩ := upperChars_of_isWordChar h.1
    rw [String.toList_ofList, hd]
    simpa using hsmall

/-- Texts none of which begins with a small letter do not when they are joined, either. -/
theorem noSmallStart_join {texts : List String} (h : ∀ s ∈ texts, NoSmallStart s) :
    NoSmallStart (String.join texts) := by
  induction texts with
  | nil =>
    intro c hc
    cases hc
  | cons s texts ih =>
    obtain ⟨hs, htexts⟩ := List.forall_mem_cons.1 h
    have hrest := ih htexts
    unfold NoSmallStart at hs hrest ⊢
    rw [String.join_cons, String.toList_append]
    cases hcs : s.toList with
    | nil => simpa using hrest
    | cons c cs =>
      rw [hcs] at hs
      simpa using hs

/-- Joined capitalized words do not begin with a small letter. -/
theorem noSmallStart_join_capitalize {words : List String}
    (h : ∀ word ∈ words, word.toList.all isWordChar) :
    NoSmallStart (String.join (words.map capitalize)) := by
  apply noSmallStart_join
  rw [List.forall_mem_map]
  intro word hword
  exact noSmallStart_capitalize (h word hword)

/-- Made safe, a name that does not begin with a small letter still does not. -/
theorem noSmallStart_safeName {s : String} (hne : s ≠ "") (h : NoSmallStart s) :
    NoSmallStart (safeName s) := by
  have hchar : ∀ c, ¬ isSmall c → ¬ isSmall (safeChar c) := by
    intro c hc
    unfold safeChar
    split
    · exact hc
    · decide
  have hunderscore : ¬ isSmall '_' := by decide
  have hchars : ∀ c ∈ (safeChars s.toList).head?, ¬ isSmall c := by
    unfold safeChars
    split
    · rename_i heq
      exact absurd (String.toList_eq_nil_iff.1 (List.map_eq_nil_iff.1 heq)) hne
    · simpa using hunderscore
    · rename_i c rest _ heq
      have hc : ¬ isSmall c := by
        cases hs : s.toList with
        | nil =>
          rw [hs] at heq
          cases heq
        | cons d ds =>
          rw [hs, List.map_cons] at heq
          obtain ⟨rfl, -⟩ := List.cons.inj heq
          exact hchar d (h d (by simp [hs]))
      split
      · simpa using hunderscore
      · simpa using hc
  unfold NoSmallStart safeName
  dsimp only
  split
  · rw [String.toList_append, String.toList_ofList]
    cases hcs : safeChars s.toList with
    | nil => simpa using hunderscore
    | cons c cs =>
      rw [hcs] at hchars
      simpa using hchars
  · rwa [String.toList_ofList]

/-- A capitalized word consists of characters of names. -/
theorem all_isNameChar_capitalize {word : String} (h : word.toList.all isWordChar) :
    (capitalize word).toList.all isNameChar := by
  unfold capitalize
  cases hword : word.toList with
  | nil => rfl
  | cons c rest =>
    rw [hword, List.all_cons, Bool.and_eq_true] at h
    obtain ⟨d, hd, hname, -⟩ := upperChars_of_isWordChar h.1
    have hrest : rest.all isNameChar := by
      rw [List.all_eq_true] at h ⊢
      intro c hc
      have hsnake : isSnakeChar c := by simp [isSnakeChar, h.2 c hc]
      exact isNameChar_of_isSnakeChar hsnake
    rw [String.toList_ofList, hd]
    simp [hname, hrest]

/-- Joined texts consist of characters of names if all of them do. -/
theorem all_isNameChar_join {texts : List String} (h : ∀ s ∈ texts, s.toList.all isNameChar) :
    (String.join texts).toList.all isNameChar := by
  induction texts with
  | nil => rfl
  | cons s texts ih =>
    obtain ⟨hs, htexts⟩ := List.forall_mem_cons.1 h
    rw [String.join_cons, String.toList_append, List.all_append, hs, ih htexts]
    rfl

/-- Joined capitalized words consist of characters of names. -/
theorem all_isNameChar_join_capitalize {words : List String}
    (h : ∀ word ∈ words, word.toList.all isWordChar) :
    (String.join (words.map capitalize)).toList.all isNameChar := by
  apply all_isNameChar_join
  rw [List.forall_mem_map]
  intro word hword
  exact all_isNameChar_capitalize (h word hword)

/-- The words of a name in lower case. -/
theorem all_isWordChar_of_mem_split {s word : String} (h : s.toList.all isSnakeChar)
    (hword : word ∈ Text.split (· == '_') s) : word.toList.all isWordChar := by
  obtain ⟨piece, hpiece, rfl⟩ := List.mem_map.1 hword
  rw [String.toList_ofList, List.all_eq_true]
  intro c hc
  obtain ⟨hmem, hne⟩ := Text.of_mem_splitAt hpiece c hc
  have hsnake : isSnakeChar c := List.all_eq_true.1 h c hmem
  simpa [isSnakeChar, hne] using hsnake

/-- The name of a type does not begin with a small letter, unless there is nothing to name. -/
theorem isFree_pascalName (s : String) : IsFree (pascalName s) := by
  refine ⟨isName_safeName _, not_isReserved_safeName _, ?_⟩
  have hstart : NoSmallStart (String.join ((Text.split (· == '_') (snakeName s)).map
      capitalize)) :=
    noSmallStart_join_capitalize fun word hword =>
      all_isWordChar_of_mem_split (all_isSnakeChar_snakeName s) hword
  unfold pascalName
  by_cases hempty : String.join ((Text.split (· == '_') (snakeName s)).map capitalize) = ""
  · -- a text of underscores has no words, and `unnamed` stands for it
    rw [hempty]
    decide +kernel
  · have hsmall : lenientWords.all fun word => word.toList.head?.any isSmall := by decide
    have hsafe := noSmallStart_safeName hempty hstart
    intro hmem
    have hfirst := List.all_eq_true.1 hsmall _ hmem
    rw [Option.any_eq_true] at hfirst
    obtain ⟨c, hc, hcsmall⟩ := hfirst
    exact hsafe c hc hcsmall

/-! ## Names of members -/

/-- Accessors are as the generator makes names. -/
theorem isMade_accessorOf (entries : List Entry) (e : Entry) (types : List ParamType) :
    IsMade (accessorOf e.title (suffix? entries e types)) := by
  unfold suffix?
  split
  · have hsuffix : ("_" ++ overloadSuffix types).toList.all isNameChar := by
      rw [String.toList_append, List.all_append, all_isNameChar_overloadSuffix]
      rfl
    have hunderscore : ("_" ++ overloadSuffix types).toList.any fun c => !isSmall c := by
      rw [String.toList_append, List.any_append]
      rfl
    rw [accessorOf, String.append_assoc]
    exact (isFree_append (isName_snakeName e.title) hsuffix hunderscore).isMade
  · exact isMade_snakeName e.title

/-- A word of a suffix consists of small letters and digits. -/
theorem all_isWordChar_of_isSuffixWord {cs : List Char} (h : isSuffixWord cs) :
    cs.all isWordChar := by
  cases cs with
  | nil => rfl
  | cons c cs =>
    rw [isSuffixWord, Bool.and_eq_true] at h
    have hc : isWordChar c := by simp [isWordChar, h.1]
    rw [List.all_cons, hc, Bool.true_and]
    exact h.2

/-- The identifier of an event is no word of the language. -/
theorem isFree_eventIdentifier (entries : List Entry) (e : Entry) (types : List ParamType) :
    IsFree (eventIdentifier e.title (suffix? entries e types)) := by
  have hpascal := isFree_pascalName e.title
  unfold suffix?
  split
  · have hwords : ∀ word ∈ Text.split (· == '_') (overloadSuffix types),
        word.toList.all isWordChar := fun word hword =>
      all_isWordChar_of_isSuffixWord (isSuffixWord_overloadSuffix types word hword)
    have hchars := all_isNameChar_join_capitalize hwords
    have hstart := noSmallStart_join_capitalize hwords
    rw [eventIdentifier]
    -- a suffix without words leaves the name of the event as it is
    cases hjoin : (String.join ((Text.split (· == '_') (overloadSuffix types)).map
        capitalize)).toList with
    | nil =>
      rw [String.toList_eq_nil_iff.1 hjoin, String.append_empty]
      exact hpascal
    | cons c cs =>
      have hc : ¬ isSmall c := hstart c (by rw [hjoin]; rfl)
      apply isFree_append hpascal.name hchars
      rw [hjoin, List.any_cons]
      simp [hc]
  · exact hpascal

/-! ## Names of inputs -/

/-- A numeral has a character that is no small letter. -/
theorem any_toString (n : Nat) : (toString n).toList.any fun c => !isSmall c := by
  have hne : (toString n).toList ≠ [] := by simp
  obtain ⟨c, cs, hcs⟩ := List.exists_cons_of_ne_nil hne
  have hdigits := all_isDigit_toString n
  rw [hcs, List.all_cons, Bool.and_eq_true] at hdigits
  have hc : ¬ isSmall c := not_isSmall_of_isDigit hdigits.1
  rw [hcs, List.any_cons]
  simp [hc]

/-- The name of an input that has none is no word of the language. -/
theorem isFree_unnamed (index : Nat) : IsFree ("p" ++ toString index) := by
  have hp : IsName "p".toList := ⟨by decide, by decide⟩
  exact isFree_append hp (all_isNameChar_toString index) (any_toString index)

/-- The name that an input is first given is as the generator makes them. -/
theorem isMade_baseName (index : Nat) (name : String) : IsMade (baseName index name) := by
  unfold baseName
  split
  · exact (isFree_unnamed index).isMade
  · exact isMade_snakeName name

/-- A name with a number behind it is no word of the language. -/
theorem isFree_numbered {base : String} (h : IsName base.toList) (n : Nat) :
    IsFree (numbered base n) := by
  unfold numbered
  rw [String.append_assoc]
  apply isFree_append h
  · rw [String.toList_append, List.all_append, all_isNameChar_toString]
    rfl
  · rw [String.toList_append, List.any_append]
    rfl

/-- The name of an input is as the generator makes them. -/
theorem isMade_inputName (taken : List String) (index : Nat) (name : String) :
    IsMade (inputName taken index name) := by
  have hbase := isMade_baseName index name
  unfold inputName
  dsimp only
  split
  · obtain ⟨k, -, hname, -⟩ := firstFree_spec taken (baseName index name) index
    rw [hname]
    exact (isFree_numbered hbase.name k).isMade
  · exact hbase

/-- The names of all inputs are as the generator makes them. -/
theorem isMade_of_mem_inputNamesFrom {names : List String} (taken : List String) (index : Nat) :
    ∀ given ∈ inputNamesFrom taken index names, IsMade given := by
  induction names generalizing taken index with
  | nil => exact List.forall_mem_nil _
  | cons name rest ih =>
    rw [inputNamesFrom, List.forall_mem_cons]
    exact ⟨isMade_inputName taken index name, ih _ _⟩

/-! ## Names of primitive integers -/

/-- The name of a primitive type is no word of the language. -/
theorem isFree_primitiveName (signed : Bool) (width : Nat) :
    IsFree (Bindings.primitiveName signed width) := by
  have hletter : IsName (if signed then "i" else "u").toList := by
    cases signed
    · exact ⟨by decide, by decide⟩
    · exact ⟨by decide, by decide⟩
  exact isFree_append hletter (all_isNameChar_toString width) (any_toString width)

end AbiBindings.Naming
