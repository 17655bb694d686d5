import Mathlib.Logic.Basic
import AbiBindings.Bindings.Settings
import AbiBindings.Proofs.Joining
import AbiBindings.Proofs.Numerals
import AbiBindings.Proofs.TypeShape

/-!
# Names are words

The names that the generator makes itself consist of ASCII letters, digits and underscores, at
least one, and do not start with a digit, whatever the interface calls its members. Such a name is
a word of source code, and so is a configured name that is written without anything around it.
-/

set_option autoImplicit false

namespace AbiBindings.Naming

open Abi
open Text (isDigit all_isDigit_toString)

/-- Whether a character may stand in a name: an ASCII letter, a digit or the underscore. -/
def isNameChar (c : Char) : Bool :=
  isSmall c || isCapital c || isDigit c || c == '_'

/-- The small letters by their code points. -/
theorem isSmall_iff (c : Char) : isSmall c ↔ 97 ≤ c.toNat ∧ c.toNat < 97 + 26 := by
  simp only [isSmall, Bool.and_eq_true, decide_eq_true_eq, Char.le_def, UInt32.le_iff_toNat_le]
  exact and_congr_right fun _ => Nat.lt_succ_iff.symm

/-- The capitals by their code points. -/
theorem isCapital_iff (c : Char) : isCapital c ↔ 65 ≤ c.toNat ∧ c.toNat < 65 + 26 := by
  simp only [isCapital, Bool.and_eq_true, decide_eq_true_eq, Char.le_def, UInt32.le_iff_toNat_le]
  exact and_congr_right fun _ => Nat.lt_succ_iff.symm

/-- The digits by their code points. -/
theorem isDigit_iff (c : Char) : isDigit c ↔ 48 ≤ c.toNat ∧ c.toNat < 48 + 10 := by
  simp only [isDigit, Bool.and_eq_true, decide_eq_true_eq, Char.le_def, UInt32.le_iff_toNat_le]
  exact and_congr_right fun _ => Nat.lt_succ_iff.symm

/-- The character at a place of a range is one of finitely many. -/
theorem exists_ofNat_of_range {low count : Nat} {c : Char}
    (h : low ≤ c.toNat ∧ c.toNat < low + count) : ∃ n : Fin count, c = Char.ofNat (low + n) := by
  obtain ⟨hlow, hhigh⟩ := h
  refine ⟨⟨c.toNat - low, by omega⟩, ?_⟩
  rw [Nat.add_sub_cancel' hlow, Char.ofNat_toNat]

/-- Characters of names are characters of ASCII. -/
theorem toNat_bounds_of_isNameChar {c : Char} (h : isNameChar c) :
    48 ≤ c.toNat ∧ c.toNat < 0x80 := by
  simp only [isNameChar, Bool.or_eq_true, beq_iff_eq, isSmall_iff, isCapital_iff, isDigit_iff] at h
  have hunderscore : '_'.toNat = 95 := rfl
  obtain ((h | h) | h) | rfl := h <;> omega

/-- Characters that make up a name: letters, digits and underscores, not led by a digit. -/
structure IsName (cs : List Char) : Prop where
  /-- All characters may stand in a name. -/
  chars : cs.all isNameChar
  /-- There is a first character, and it is no digit. -/
  first : cs.head?.any fun c => !isDigit c

/-- A character that is replaced where it must be may stand in a name. -/
@[simp]
theorem isNameChar_safeChar (c : Char) : isNameChar (safeChar c) := by
  unfold safeChar
  split
  · simpa only [isNameChar] using ‹_›
  · rfl

/-- The characters of a safe name make up a name. -/
theorem isName_safeChars (cs : List Char) : IsName (safeChars cs) := by
  have hchars : (cs.map safeChar).all isNameChar := by simp
  unfold safeChars
  split
  · exact ⟨by decide, by decide⟩
  · exact ⟨by decide, by decide⟩
  · rename_i c rest hne heq
    rw [heq] at hchars
    split
    · exact ⟨by simpa [isNameChar] using hchars, rfl⟩
    · refine ⟨hchars, ?_⟩
      simp_all

/-- A name with more characters of names behind it is a name. -/
theorem IsName.append {cs ds : List Char} (h : IsName cs) (hds : ds.all isNameChar) :
    IsName (cs ++ ds) := by
  obtain ⟨hchars, hfirst⟩ := h
  refine ⟨by rw [List.all_append, hchars, hds]; rfl, ?_⟩
  cases cs with
  | nil => simp at hfirst
  | cons c cs => exact hfirst

/-- A safe name is a name. -/
theorem isName_safeName (s : String) : IsName (safeName s).toList := by
  have h := isName_safeChars s.toList
  unfold safeName
  dsimp only
  split
  · have hunderscore : ['_'].all isNameChar := rfl
    simpa using h.append hunderscore
  · simpa using h

/-- A name in lower case is a name. -/
theorem isName_snakeName (s : String) : IsName (snakeName s).toList :=
  isName_safeName _

/-- The digits of a number may stand in a name. -/
theorem all_isNameChar_toString (n : Nat) : (toString n).toList.all isNameChar := by
  rw [List.all_eq_true]
  intro c hc
  have hdigit : isDigit c := List.all_eq_true.1 (all_isDigit_toString n) c hc
  simp [isNameChar, hdigit]

/-- The suffix of a type may stand in a name. -/
theorem all_isNameChar_typeSuffix (type : ParamType) :
    (typeSuffix type).toList.all isNameChar := by
  induction type using ParamType.shapeInduction with
  | elementary type h =>
    rw [typeSuffix_of_isElementary h]
    cases type with
    | address | bool | string | bytes => decide +kernel
    | fixedBytes n | uint n | int n =>
      rw [ParamType.canonical, String.toList_append, List.all_append, all_isNameChar_toString]
      rfl
    | array _ | fixedArray _ _ | tuple _ => simp [ParamType.isElementary] at h
  | array element ih =>
    rw [typeSuffix, String.toList_append, List.all_append, ih]
    rfl
  | fixedArray element length ih =>
    rw [typeSuffix, String.toList_append, String.toList_append, List.all_append, List.all_append,
      ih, all_isNameChar_toString]
    rfl
  | tuple components ih =>
    have h : (Text.join "_" (componentSuffixes components)).toList.all isNameChar := by
      rw [componentSuffixes_eq]
      apply Text.all_join rfl
      intro s hs
      obtain ⟨c, hc, rfl⟩ := List.mem_map.1 hs
      exact ih c hc
    rw [typeSuffix, String.toList_append, String.toList_append, List.all_append, List.all_append, h]
    rfl

/-- The suffix of a list of types may stand in a name. -/
theorem all_isNameChar_overloadSuffix (types : List ParamType) :
    (overloadSuffix types).toList.all isNameChar := by
  unfold overloadSuffix
  split
  · decide +kernel
  · apply Text.all_join rfl
    intro s hs
    obtain ⟨type, -, rfl⟩ := List.mem_map.1 hs
    exact all_isNameChar_typeSuffix type

/-- The name of a method is a name, with and without a suffix. -/
theorem isName_accessorOf (entries : List Entry) (e : Entry) (types : List ParamType) :
    IsName (accessorOf e.title (suffix? entries e types)).toList := by
  unfold suffix?
  split
  · rw [accessorOf, String.toList_append, String.toList_append, List.append_assoc]
    refine (isName_snakeName e.title).append ?_
    rw [List.all_append, all_isNameChar_overloadSuffix]
    rfl
  · exact isName_snakeName e.title

end AbiBindings.Naming

namespace AbiBindings.Code

open Naming
open Text (isDigit)

/-- The characters of names are the underscore and the ASCII letters and digits. -/
theorem isNameChar_iff (c : Char) : isNameChar c ↔ c = '_' ∨ c.isAlpha ∨ c.isDigit := by
  have hsmall : isSmall c = c.isLower := rfl
  have hcapital : isCapital c = c.isUpper := (Bool.decide_and _ _).symm
  have hdigit : isDigit c = c.isDigit := rfl
  have halpha : c.isAlpha = (c.isUpper || c.isLower) := rfl
  simp only [isNameChar, hsmall, hcapital, hdigit, halpha, Bool.or_eq_true, beq_iff_eq]
  tauto

/-- A character of a name may stand inside an identifier. -/
theorem isIdentifierContinue_of_isNameChar {c : Char} (h : isNameChar c) :
    Text.isIdentifierContinue c := by
  rw [Text.isIdentifierContinue, if_pos (toNat_bounds_of_isNameChar h).2]
  simpa [Char.isAlphanum] using (isNameChar_iff c).1 h

/-- A character of a name that is no digit may begin an identifier. -/
theorem isIdentifierStart_of_isNameChar {c : Char} (h : isNameChar c) (hdigit : ¬ isDigit c) :
    Text.isIdentifierStart c := by
  rw [Text.isIdentifierStart, if_pos (toNat_bounds_of_isNameChar h).2]
  have hdigit' : ¬ c.isDigit := hdigit
  simpa [hdigit'] using (isNameChar_iff c).1 h

/-- A name is a word of source code. -/
theorem isWord_of_isName {s : String} (h : IsName s.toList) : isWord s := by
  obtain ⟨hchars, hfirst⟩ := h
  unfold isWord
  cases hs : s.toList with
  | nil => simp [hs] at hfirst
  | cons c rest =>
    rw [hs, List.all_cons, Bool.and_eq_true] at hchars
    have hstart : Text.isIdentifierStart c :=
      isIdentifierStart_of_isNameChar hchars.1 (by simpa [hs] using hfirst)
    have hrest : rest.all Text.isIdentifierContinue := by
      rw [List.all_eq_true] at hchars ⊢
      exact fun d hd => isIdentifierContinue_of_isNameChar (hchars.2 d hd)
    simp only [hstart, hrest, Bool.and_self]

/-- The longest word at the front of a text is a word. -/
theorem isWord_of_takeWord? {cs behind : List Char} {word : String}
    (h : takeWord? cs = some (word, behind)) : isWord word := by
  cases cs with
  | nil => simp [takeWord?] at h
  | cons c rest =>
    by_cases hc : Text.isIdentifierStart c
    · rw [takeWord?, if_pos hc] at h
      obtain ⟨rfl, -⟩ := Prod.mk.inj (Option.some.inj h)
      simp [isWord, hc]
    · simp [takeWord?, hc] at h

/-- An identifier at the front of a text is a word or has the raw form. -/
theorem isWord_or_raw_of_takeIdentifier? {cs behind : List Char} {word : String}
    (h : takeIdentifier? cs = some (word, behind)) :
    isWord word ∨ ['r', '#'].isPrefixOf word.toList := by
  unfold takeIdentifier? at h
  split at h
  · split at h
    · split at h
      · cases h
      · obtain ⟨rfl, -⟩ := Prod.mk.inj (Option.some.inj h)
        right
        simp
    · cases h
  · exact Or.inl (isWord_of_takeWord? h)

/-- A text that is read as the very identifier it is, in the plain form, is a word. -/
theorem isWord_of_identifier?_eq_self {s : String} (h : identifier? s = some s)
    (hplain : ¬ ['r', '#'].isPrefixOf s.toList) : isWord s := by
  unfold identifier? at h
  split at h
  · rename_i word behind htake
    split at h
    · obtain rfl := Option.some.inj h
      exact (isWord_or_raw_of_takeIdentifier? htake).resolve_right hplain
    · cases h
  · cases h

end AbiBindings.Code
