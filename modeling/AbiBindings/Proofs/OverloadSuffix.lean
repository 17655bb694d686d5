import AbiBindings.Proofs.Names

/-!
# Suffixes of overloads can be read back

A suffix consists of words with underscores between them: one for an elementary type, one behind
the words of an element for an array, and two around the words of the components for a tuple.
`typesOfSuffix` reads the words with a stack of the tuples that are open and finds the types again,
without the names of components. Hence different lists of types have different suffixes.
-/

set_option autoImplicit false

namespace AbiBindings.Naming

open Abi
open Text (isDigit all_isDigit_toString)

/-! ## Words -/

/-- The words of a suffix. -/
def suffixWords (s : String) : List String :=
  Text.split (· == '_') s

/-- Words before and behind an underscore are the words of the whole. -/
theorem suffixWords_append (s t : String) :
    suffixWords (s ++ "_" ++ t) = suffixWords s ++ suffixWords t :=
  Text.split_append rfl rfl s t

/-- The words of joined texts are those of the texts. -/
theorem suffixWords_join {texts : List String} (h : texts ≠ []) :
    suffixWords (Text.join "_" texts) = texts.flatMap suffixWords :=
  Text.split_join rfl rfl h

/-- A text without underscores is one word. -/
theorem suffixWords_word {word : String} (h : word.toList.all (· != '_')) :
    suffixWords word = [word] :=
  Text.split_eq_singleton (by simpa using h)

/-- Letters with a number are one word. -/
theorem suffixWords_number {letters : String} (h : letters.toList.all (· != '_')) (n : Nat) :
    suffixWords (letters ++ toString n) = [letters ++ toString n] := by
  apply suffixWords_word
  rw [String.toList_append, List.all_append, h, Bool.true_and, List.all_eq_true]
  intro c hc
  have hdigit : isDigit c := List.all_eq_true.1 (all_isDigit_toString n) c hc
  rw [bne_iff_ne]
  rintro rfl
  exact absurd hdigit (by decide)

/-- The suffix of an elementary type is one word, its canonical name. -/
theorem suffixWords_elementary {type : ParamType} (h : type.isElementary) :
    suffixWords (typeSuffix type) = [type.canonical] := by
  rw [typeSuffix_of_isElementary h]
  cases type with
  | address | bool | string | bytes => exact suffixWords_word rfl
  | fixedBytes n | uint n | int n => exact suffixWords_number rfl n
  | array _ | fixedArray _ _ | tuple _ => simp [ParamType.isElementary] at h

/-- The suffix of an array ends with a word for it. -/
theorem suffixWords_array (element : ParamType) :
    suffixWords (typeSuffix (.array element)) = suffixWords (typeSuffix element) ++ ["array"] := by
  have hsuffix : typeSuffix (.array element) = typeSuffix element ++ "_" ++ "array" := by
    rw [typeSuffix, String.append_assoc]
    rfl
  have hword : suffixWords "array" = ["array"] := suffixWords_word rfl
  rw [hsuffix, suffixWords_append, hword]

/-- The suffix of an array of fixed length ends with a word for it. -/
theorem suffixWords_fixedArray (element : ParamType) (length : Nat) :
    suffixWords (typeSuffix (.fixedArray element length)) =
      suffixWords (typeSuffix element) ++ ["array" ++ toString length] := by
  have hsuffix : typeSuffix (.fixedArray element length) =
      typeSuffix element ++ "_" ++ ("array" ++ toString length) := by
    have harray : "_array" = "_" ++ "array" := rfl
    simp only [typeSuffix, harray, String.append_assoc]
  rw [hsuffix, suffixWords_append, suffixWords_number rfl]

/-- The suffix of a tuple has a word before and a word behind those of its components. -/
theorem suffixWords_tuple (components : List (String × ParamType)) :
    suffixWords (typeSuffix (.tuple components)) = "tuple" ::
      (suffixWords (Text.join "_" (components.map fun c => typeSuffix c.2)) ++ ["end"]) := by
  have hsuffix : typeSuffix (.tuple components) =
      "tuple" ++ "_" ++ Text.join "_" (components.map fun c => typeSuffix c.2) ++ "_" ++ "end" := by
    have hopen : "tuple_" = "tuple" ++ "_" := rfl
    have hclose : "_end" = "_" ++ "end" := rfl
    simp only [typeSuffix, componentSuffixes_eq, hopen, hclose, String.append_assoc]
  have htuple : suffixWords "tuple" = ["tuple"] := suffixWords_word rfl
  have hend : suffixWords "end" = ["end"] := suffixWords_word rfl
  rw [hsuffix, suffixWords_append, suffixWords_append, htuple, hend]
  rfl

/-- A word as its letters and the number behind them, if there is one. -/
def wordParts (word : String) : String × Option Nat :=
  let letters := word.toList.takeWhile fun c => !isDigit c
  let digits := word.toList.dropWhile fun c => !isDigit c
  (String.ofList letters, if digits.isEmpty then none else some (Text.digitsValue digits))

/-- Letters with digits behind them are told apart at the first digit. -/
theorem wordParts_ofList {letters digits : List Char} (hletters : letters.all (!isDigit ·))
    (hdigits : digits.all isDigit) :
    wordParts (String.ofList (letters ++ digits)) =
      (String.ofList letters,
        if digits.isEmpty then none else some (Text.digitsValue digits)) := by
  rw [List.all_eq_true] at hletters
  unfold wordParts
  rw [String.toList_ofList, List.takeWhile_append_of_pos hletters,
    List.dropWhile_append_of_pos hletters]
  cases digits with
  | nil => simp
  | cons d ds =>
    rw [List.all_cons, Bool.and_eq_true] at hdigits
    simp [hdigits.1]

/-- A word without digits has no number. -/
theorem wordParts_letters {word : String} (h : word.toList.all (!isDigit ·)) :
    wordParts word = (word, none) := by
  have hparts := @wordParts_ofList _ [] h rfl
  rwa [List.append_nil, String.ofList_toList] at hparts

/-- Letters and the number behind them are told apart. -/
theorem wordParts_number {letters : String} (h : letters.toList.all (!isDigit ·)) (n : Nat) :
    wordParts (letters ++ toString n) = (letters, some n) := by
  have hparts := wordParts_ofList h (all_isDigit_toString n)
  rw [← String.toList_append, String.ofList_toList, String.ofList_toList,
    Text.digitsValue_toString, if_neg (by simp)] at hparts
  exact hparts

/-! ## The reader -/

/-- The elementary type that a word stands for, if it is one. -/
def elementaryOf : String × Option Nat → Option ParamType
  | ("address", none) => some .address
  | ("bool", none) => some .bool
  | ("string", none) => some .string
  | ("bytes", none) => some .bytes
  | ("bytes", some size) => some (.fixedBytes size)
  | ("uint", some bits) => some (.uint bits)
  | ("int", some bits) => some (.int bits)
  | _ => none

/-- What a word does to the types read so far, the last one first: one list for each tuple that is
open, the innermost first, and one for the types outside all tuples. -/
def readWord (frames : List (List ParamType)) (word : String) : List (List ParamType) :=
  match wordParts word, frames with
  | ("tuple", none), frames => [] :: frames
  | ("end", none), types :: outer :: frames =>
    (.tuple (ParamType.asComponents types.reverse) :: outer) :: frames
  | ("array", none), (element :: types) :: frames => (.array element :: types) :: frames
  | ("array", some length), (element :: types) :: frames =>
    (.fixedArray element length :: types) :: frames
  | parts, types :: frames => ((elementaryOf parts).toList ++ types) :: frames
  | _, [] => []

/-- The types that are read in the words of a text. -/
def typesOfSuffix (s : String) : List ParamType :=
  (((suffixWords s).foldl readWord [[]]).headD []).reverse

section Reader

variable (frames : List (List ParamType)) (types : List ParamType)

/-- The name of an elementary type is read as that type. -/
theorem readWord_elementary {type : ParamType} (h : type.isElementary) :
    readWord (types :: frames) type.canonical = (type :: types) :: frames := by
  cases type with
  | address | bool | string | bytes =>
    unfold readWord
    rw [ParamType.canonical, wordParts_letters rfl]
    rfl
  | fixedBytes n | uint n | int n =>
    unfold readWord
    rw [ParamType.canonical, wordParts_number rfl]
    rfl
  | array _ | fixedArray _ _ | tuple _ => simp [ParamType.isElementary] at h

/-- The word for an array makes an array of the type before it. -/
theorem readWord_array (element : ParamType) :
    readWord ((element :: types) :: frames) "array" = (.array element :: types) :: frames := by
  unfold readWord
  rw [wordParts_letters rfl]
  rfl

/-- The word for an array of fixed length makes one of the type before it. -/
theorem readWord_fixedArray (element : ParamType) (length : Nat) :
    readWord ((element :: types) :: frames) ("array" ++ toString length) =
      (.fixedArray element length :: types) :: frames := by
  unfold readWord
  rw [wordParts_number rfl]
  rfl

/-- The word before a tuple starts a list of components. -/
theorem readWord_tuple : readWord frames "tuple" = [] :: frames := by
  unfold readWord
  rw [wordParts_letters rfl]
  rfl

/-- The word behind a tuple makes one of the components since its start. -/
theorem readWord_end (outer : List ParamType) : readWord (types :: outer :: frames) "end" =
    (.tuple (ParamType.asComponents types.reverse) :: outer) :: frames := by
  unfold readWord
  rw [wordParts_letters rfl]
  rfl

/-- An empty word is passed over. -/
theorem readWord_empty : readWord frames "" = frames := by
  unfold readWord
  rw [wordParts_letters rfl]
  cases frames <;> rfl

end Reader

/-- Whether a type is read in its suffix, without the names of its components, whatever has been
read before. -/
def IsRead (type : ParamType) : Prop :=
  ∀ frames types, (suffixWords (typeSuffix type)).foldl readWord (types :: frames) =
    (type.unnamed :: types) :: frames

/-- The types of a list are read from their suffixes, one behind the other. -/
theorem foldl_readWord_flatMap {l : List ParamType} (h : ∀ type ∈ l, IsRead type)
    (frames : List (List ParamType)) (types : List ParamType) :
    ((l.map typeSuffix).flatMap suffixWords).foldl readWord (types :: frames) =
      ((l.map ParamType.unnamed).reverse ++ types) :: frames := by
  induction l generalizing types with
  | nil => rfl
  | cons type l ih =>
    obtain ⟨htype, hl⟩ := List.forall_mem_cons.1 h
    rw [List.map_cons, List.flatMap_cons, List.foldl_append, htype, ih hl]
    simp

/-- A list of types is read in the join of their suffixes; the join of none is a word that changes
nothing. -/
theorem foldl_readWord_join {l : List ParamType} (h : ∀ type ∈ l, IsRead type)
    (frames : List (List ParamType)) (types : List ParamType) :
    (suffixWords (Text.join "_" (l.map typeSuffix))).foldl readWord (types :: frames) =
      ((l.map ParamType.unnamed).reverse ++ types) :: frames := by
  by_cases hl : l = []
  · subst hl
    have hwords : suffixWords "" = [""] := suffixWords_word rfl
    show (suffixWords "").foldl readWord (types :: frames) = types :: frames
    rw [hwords]
    exact readWord_empty (types :: frames)
  · rw [suffixWords_join (by simpa using hl)]
    exact foldl_readWord_flatMap h frames types

/-- Every type is read in its suffix: the words of a component stand between those of its tuple, and
are read on top of whatever is open. -/
theorem isRead (type : ParamType) : IsRead type := by
  induction type using ParamType.shapeInduction with
  | elementary type h =>
    intro frames types
    rw [suffixWords_elementary h, ParamType.unnamed_of_isElementary h, List.foldl_cons,
      List.foldl_nil, readWord_elementary frames types h]
  | array element ih =>
    intro frames types
    rw [suffixWords_array, List.foldl_append, ih, List.foldl_cons, List.foldl_nil, readWord_array]
    rfl
  | fixedArray element length ih =>
    intro frames types
    rw [suffixWords_fixedArray, List.foldl_append, ih, List.foldl_cons, List.foldl_nil,
      readWord_fixedArray]
    rfl
  | tuple components ih =>
    intro frames types
    have hcomponents := @foldl_readWord_join (components.map Prod.snd)
      (List.forall_mem_map.2 ih) (types :: frames) []
    rw [List.map_map, List.map_map, List.append_nil] at hcomponents
    rw [suffixWords_tuple, List.foldl_cons, readWord_tuple, List.foldl_append]
    show readWord ((suffixWords (Text.join "_" (components.map (typeSuffix ∘ Prod.snd)))).foldl
      readWord ([] :: types :: frames)) "end" = _
    rw [hcomponents, readWord_end, List.reverse_reverse, ParamType.unnamed,
      ParamType.unnamedComponents_eq]
    rfl

/-- The types are read in their suffix, without the names of their components. -/
theorem typesOfSuffix_overloadSuffix (types : List ParamType) :
    typesOfSuffix (overloadSuffix types) = types.map ParamType.unnamed := by
  unfold overloadSuffix typesOfSuffix
  split
  · obtain rfl := List.isEmpty_iff.1 ‹_›
    have hwords : suffixWords "no_args" = ["no", "args"] := by decide +kernel
    rw [hwords]
    rfl
  · rw [foldl_readWord_join fun type _ => isRead type]
    simp

example : typesOfSuffix "tuple_uint8_bool_end_array3_address" =
    [.fixedArray (.tuple [("", .uint 8), ("", .bool)]) 3, .address] := by
  rfl

/-! ## Suffixes and canonical texts -/

/-- A character of a canonical text as a suffix shows it. -/
def suffixChar : Char → List Char
  | '(' => "tuple_".toList
  | ')' => "_end".toList
  | ',' => "_".toList
  | '[' => "_array".toList
  | ']' => []
  | c => [c]

/-- A character of names stays as it is in a suffix. -/
theorem suffixChar_of_isNameChar {c : Char} (h : isNameChar c) : suffixChar c = [c] := by
  unfold suffixChar
  split
  · exact absurd h (by decide)
  · exact absurd h (by decide)
  · exact absurd h (by decide)
  · exact absurd h (by decide)
  · exact absurd h (by decide)
  · rfl

/-- Characters of names stay as they are in a suffix. -/
theorem flatMap_suffixChar {cs : List Char} (h : cs.all isNameChar) :
    cs.flatMap suffixChar = cs := by
  induction cs with
  | nil => rfl
  | cons c cs ih =>
    rw [List.all_cons, Bool.and_eq_true] at h
    rw [List.flatMap_cons, suffixChar_of_isNameChar h.1, ih h.2]
    rfl

/-- The suffix of a type is its canonical text, rewritten character by character. -/
theorem flatMap_suffixChar_canonical (type : ParamType) :
    type.canonical.toList.flatMap suffixChar = (typeSuffix type).toList := by
  induction type using ParamType.shapeInduction with
  | elementary type h =>
    rw [← typeSuffix_of_isElementary h]
    exact flatMap_suffixChar (all_isNameChar_typeSuffix type)
  | array element ih =>
    rw [ParamType.canonical, typeSuffix, String.toList_append, String.toList_append,
      List.flatMap_append, ih]
    rfl
  | fixedArray element length ih =>
    have hlength := flatMap_suffixChar (all_isNameChar_toString length)
    have hopening : "[".toList.flatMap suffixChar = "_array".toList := rfl
    have hclosing : "]".toList.flatMap suffixChar = [] := rfl
    simp only [ParamType.canonical, typeSuffix, String.toList_append, List.flatMap_append, ih,
      hlength, hopening, hclosing, List.append_nil]
  | tuple components ih =>
    have hcomponents := @Text.flatMap_join _ suffixChar
      (fun c : String × ParamType => c.2.canonical) (fun c => typeSuffix c.2) "," "_" components
      rfl ih
    rw [ParamType.canonical, typeSuffix, ParamType.canonicalComponents_eq, componentSuffixes_eq]
    simp only [String.toList_append, List.flatMap_append, hcomponents]
    rfl

/-- The names of components do not show in a suffix, as they do not in a canonical text. -/
theorem typeSuffix_unnamed (type : ParamType) : typeSuffix type.unnamed = typeSuffix type := by
  rw [← String.toList_inj, ← flatMap_suffixChar_canonical, ParamType.canonical_unnamed,
    flatMap_suffixChar_canonical]

/-! ## Different types have different suffixes -/

/-- Suffixes do not depend on the names of components. -/
theorem overloadSuffix_unnamed (types : List ParamType) :
    overloadSuffix (types.map ParamType.unnamed) = overloadSuffix types := by
  have hsuffixes : (types.map ParamType.unnamed).map typeSuffix = types.map typeSuffix := by
    rw [List.map_map]
    exact List.map_congr_left fun type _ => typeSuffix_unnamed type
  rw [overloadSuffix, overloadSuffix, hsuffixes, List.isEmpty_map]

/-- Types with the same suffix are the same, but for the names of components. -/
theorem overloadSuffix_inj {types others : List ParamType} :
    overloadSuffix types = overloadSuffix others ↔
      types.map ParamType.unnamed = others.map ParamType.unnamed := by
  constructor
  · intro h
    rw [← typesOfSuffix_overloadSuffix, h, typesOfSuffix_overloadSuffix]
  · intro h
    rw [← overloadSuffix_unnamed types, h, overloadSuffix_unnamed]

/-- Suffixes of overloads are unambiguous: two lists of types have the same suffix exactly if they
differ in nothing but the names of components, and only the empty list has the suffix of none. -/
theorem overloadSuffix_unambiguous (types : List ParamType) :
    (∀ others, overloadSuffix types = overloadSuffix others ↔
      types.map ParamType.unnamed = others.map ParamType.unnamed) ∧
      (overloadSuffix types = "no_args" ↔ types = []) := by
  refine ⟨fun others => overloadSuffix_inj, ?_⟩
  have hempty : overloadSuffix [] = "no_args" := rfl
  rw [← hempty, overloadSuffix_inj, List.map_nil, List.map_eq_nil_iff]

end AbiBindings.Naming
