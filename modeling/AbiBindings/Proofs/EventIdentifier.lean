import AbiBindings.Naming.Resolution
import AbiBindings.Proofs.OverloadSuffix

/-!
# Identifiers of events can be read back

The identifier of an overloaded event ends in the words of its suffix, written one after the other
with a capital at the start of each. Small letters and digits follow a capital, so every capital
starts a word and the words are found again, but for empty ones, which change nothing for the reader
of suffixes. Hence overloads of an event have different identifiers (`eventIdentifier_inj`).
-/

set_option autoImplicit false

namespace AbiBindings.Naming

open Abi
open Text (isDigit all_isDigit_toString)

/-! ## Words of suffixes -/

/-- Whether characters make up a word of a suffix: none, or a small letter with small letters and
digits behind it. -/
def isSuffixWord : List Char → Bool
  | [] => true
  | c :: rest => isSmall c && rest.all fun d => isSmall d || isDigit d

/-- A word of a suffix has no underscores. -/
theorem ne_underscore_of_isSuffixWord {cs : List Char} (h : isSuffixWord cs) :
    ∀ c ∈ cs, ¬ (c == '_') = true := by
  cases cs with
  | nil => exact List.forall_mem_nil _
  | cons d rest =>
    rw [isSuffixWord, Bool.and_eq_true, List.all_eq_true] at h
    intro c hc heq
    obtain rfl := beq_iff_eq.1 heq
    rcases List.mem_cons.1 hc with rfl | hrest
    · exact absurd h.1 (by decide)
    · exact absurd (h.2 _ hrest) (by decide)

/-- Letters with a number behind them are a word of a suffix. -/
theorem isSuffixWord_number {letters : String} (h : isSuffixWord letters.toList)
    (hne : letters ≠ "") (n : Nat) : isSuffixWord (letters ++ toString n).toList := by
  have hdigits : (toString n).toList.all fun d => isSmall d || isDigit d := by
    have hall := List.all_eq_true.1 (all_isDigit_toString n)
    rw [List.all_eq_true]
    intro c hc
    rw [hall c hc, Bool.or_true]
  rw [String.toList_append]
  cases hletters : letters.toList with
  | nil => exact absurd (String.toList_eq_nil_iff.1 hletters) hne
  | cons c rest =>
    rw [hletters, isSuffixWord, Bool.and_eq_true] at h
    rw [List.cons_append, isSuffixWord, List.all_append, h.1, h.2, hdigits]
    rfl

/-- The words of joined texts are those of the texts. -/
theorem isSuffixWord_join {texts : List String}
    (h : ∀ s ∈ texts, ∀ word ∈ suffixWords s, isSuffixWord word.toList) :
    ∀ word ∈ suffixWords (Text.join "_" texts), isSuffixWord word.toList := by
  by_cases hnil : texts = []
  · have hwords : suffixWords "" = [""] := suffixWords_word rfl
    rw [hnil, Text.join, hwords, List.forall_mem_singleton]
    rfl
  · rw [suffixWords_join hnil]
    intro word hword
    obtain ⟨s, hs, hmem⟩ := List.mem_flatMap.1 hword
    exact h s hs word hmem

/-- The suffix of a type consists of words. -/
theorem isSuffixWord_typeSuffix (type : ParamType) :
    ∀ word ∈ suffixWords (typeSuffix type), isSuffixWord word.toList := by
  induction type using ParamType.shapeInduction with
  | elementary type h =>
    rw [suffixWords_elementary h, List.forall_mem_singleton]
    cases type with
    | address | bool | string | bytes => decide +kernel
    | fixedBytes n | uint n | int n => exact isSuffixWord_number (by decide) (by decide) n
    | array _ | fixedArray _ _ | tuple _ => simp [ParamType.isElementary] at h
  | array element ih =>
    rw [suffixWords_array, List.forall_mem_append, List.forall_mem_singleton]
    exact ⟨ih, by decide⟩
  | fixedArray element length ih =>
    rw [suffixWords_fixedArray, List.forall_mem_append, List.forall_mem_singleton]
    exact ⟨ih, isSuffixWord_number (by decide) (by decide) length⟩
  | tuple components ih =>
    rw [suffixWords_tuple, List.forall_mem_cons, List.forall_mem_append, List.forall_mem_singleton]
    refine ⟨by decide, ?_, by decide⟩
    refine isSuffixWord_join ?_
    rw [List.forall_mem_map]
    exact ih

/-- The suffix of a list of types consists of words. -/
theorem isSuffixWord_overloadSuffix (types : List ParamType) :
    ∀ word ∈ suffixWords (overloadSuffix types), isSuffixWord word.toList := by
  unfold overloadSuffix
  split
  · decide +kernel
  · refine isSuffixWord_join ?_
    rw [List.forall_mem_map]
    exact fun type _ => isSuffixWord_typeSuffix type

/-! ## Capitals -/

/-- Small letters and capitals stand at the same places in the alphabet. -/
theorem upperChars_smallLetter : ∀ n : Fin 26,
    Text.upperChars (Char.ofNat (97 + n)) = [Char.ofNat (65 + n)] ∧
      isCapital (Char.ofNat (65 + n)) ∧ smallOf (Char.ofNat (65 + n)) = Char.ofNat (97 + n) := by
  decide +kernel

/-- A small letter has a capital, whose small letter it is. -/
theorem exists_capital {c : Char} (h : isSmall c) :
    ∃ d, Text.upperChars c = [d] ∧ isCapital d ∧ smallOf d = c := by
  obtain ⟨n, rfl⟩ := exists_ofNat_of_range ((isSmall_iff c).1 h)
  exact ⟨_, upperChars_smallLetter n⟩

/-- A capital as an underscore and its small letter; every other character as it is. -/
def spreadChar (c : Char) : List Char :=
  if isCapital c then ['_', smallOf c] else [c]

/-- A small letter or digit is no capital. -/
theorem not_isCapital_of_isSmall_or_isDigit {c : Char} (h : isSmall c || isDigit c) :
    ¬ isCapital c := by
  rw [Bool.or_eq_true, isSmall_iff, isDigit_iff] at h
  rw [isCapital_iff]
  omega

/-- Small letters and digits are not spread. -/
theorem flatMap_spreadChar_eq_self {cs : List Char} (h : cs.all fun c => isSmall c || isDigit c) :
    cs.flatMap spreadChar = cs := by
  induction cs with
  | nil => rfl
  | cons c cs ih =>
    rw [List.all_cons, Bool.and_eq_true] at h
    rw [List.flatMap_cons, spreadChar, if_neg (not_isCapital_of_isSmall_or_isDigit h.1), ih h.2]
    rfl

/-- A word with a capital at its start is spread to the word behind an underscore. -/
theorem flatMap_spreadChar_capitalize {word : String} (h : isSuffixWord word.toList)
    (hne : word ≠ "") : (capitalize word).toList.flatMap spreadChar = '_' :: word.toList := by
  unfold capitalize
  cases hword : word.toList with
  | nil => exact absurd (String.toList_eq_nil_iff.1 hword) hne
  | cons c rest =>
    rw [hword, isSuffixWord, Bool.and_eq_true] at h
    obtain ⟨d, hd, hcapital, hsmall⟩ := exists_capital h.1
    rw [String.toList_ofList, hd, List.flatMap_append, flatMap_spreadChar_eq_self h.2]
    simp [spreadChar, hcapital, hsmall]

/-- Words with capitals, written one after the other, are spread to the words that are not empty. -/
theorem flatMap_spreadChar_join {words : List String}
    (h : ∀ word ∈ words, isSuffixWord word.toList) :
    (String.join (words.map capitalize)).toList.flatMap spreadChar =
      ((words.filter (· ≠ "")).map String.toList).flatMap ('_' :: ·) := by
  induction words with
  | nil => rfl
  | cons word words ih =>
    obtain ⟨hword, hwords⟩ := List.forall_mem_cons.1 h
    rw [List.map_cons, String.join_cons, String.toList_append, List.flatMap_append, ih hwords]
    by_cases hempty : word = ""
    · -- an empty word leaves no trace in an identifier
      subst hempty
      rfl
    · rw [flatMap_spreadChar_capitalize hword hempty,
        List.filter_cons_of_pos (by simpa using hempty)]
      rfl

/-! ## Reading identifiers -/

/-- The text of an identifier behind the name of its event, with its words as in a suffix. -/
def spread (s : String) : String :=
  String.ofList (s.toList.flatMap spreadChar)

/-- The words of a suffix that are not empty are found in its capitalized words. -/
theorem suffixWords_spread {words : List String} (h : ∀ word ∈ words, isSuffixWord word.toList) :
    suffixWords (spread (String.join (words.map capitalize))) = "" :: words.filter (· ≠ "") := by
  have hpieces : ∀ piece ∈ (words.filter (· ≠ "")).map String.toList, ∀ c ∈ piece,
      ¬ (c == '_') = true := by
    rw [List.forall_mem_map]
    intro word hword
    exact ne_underscore_of_isSuffixWord (h word (List.mem_filter.1 hword).1)
  have hsplit := @Text.splitAt_append_flatMap _ (· == '_') '_' rfl [] _ (by simp) hpieces
  rw [List.nil_append] at hsplit
  unfold suffixWords spread Text.split
  rw [flatMap_spreadChar_join h, String.toList_ofList, hsplit, List.map_cons, List.map_map]
  have hsame : String.ofList ∘ String.toList = id := funext fun _ => String.ofList_toList
  rw [hsame, List.map_id]

/-- Empty words are passed over when a suffix is read. -/
theorem foldl_readWord_filter (words : List String) (frames : List (List ParamType)) :
    (words.filter (· ≠ "")).foldl readWord frames = words.foldl readWord frames := by
  induction words generalizing frames with
  | nil => rfl
  | cons word words ih =>
    by_cases hempty : word = ""
    · subst hempty
      rw [List.filter_cons_of_neg (by simp), ih, List.foldl_cons, readWord_empty]
    · rw [List.filter_cons_of_pos (by simpa using hempty), List.foldl_cons, List.foldl_cons, ih]

/-- The types of an overloaded event are read in the part of its identifier behind its name. -/
theorem typesOfSuffix_spread (types : List ParamType) :
    typesOfSuffix (spread (String.join ((suffixWords (overloadSuffix types)).map capitalize))) =
      types.map ParamType.unnamed := by
  rw [typesOfSuffix, suffixWords_spread (isSuffixWord_overloadSuffix types), List.foldl_cons,
    readWord_empty, foldl_readWord_filter]
  exact typesOfSuffix_overloadSuffix types

/-- Overloads of an event have the same identifier exactly if their types differ in nothing but the
names of components. -/
theorem eventIdentifier_inj {name : String} {types others : List ParamType} :
    eventIdentifier name (some (overloadSuffix types)) =
        eventIdentifier name (some (overloadSuffix others)) ↔
      types.map ParamType.unnamed = others.map ParamType.unnamed := by
  constructor
  · intro h
    have hwords := (String.append_right_inj _).1 h
    rw [← typesOfSuffix_spread types, ← typesOfSuffix_spread others]
    exact congrArg (fun s => typesOfSuffix (spread s)) hwords
  · intro h
    rw [overloadSuffix_inj.2 h]

end AbiBindings.Naming
