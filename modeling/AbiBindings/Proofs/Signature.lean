import AbiBindings.Abi.Entry
import AbiBindings.Proofs.OverloadSuffix

/-!
# Signatures can be taken apart

The name in a signature may hold brackets and commas of its own, but the list of types behind it
begins at the bracket that the last character closes: brackets are nested in the text of a type. The
types in that list are found by way of their suffixes, for which the text only has to be rewritten
character by character. `signature_unambiguous` puts the two together.
-/

set_option autoImplicit false

namespace AbiBindings.Abi

/-! ## Nested brackets -/

/-- Round brackets are nested: as many are opened as closed, and towards the end at least as many
are closed as opened. -/
structure Nested (cs : List Char) : Prop where
  balanced : cs.count '(' = cs.count ')'
  closed : ∀ tail, tail <:+ cs → tail.count '(' ≤ tail.count ')'

/-- A text without brackets is nested. -/
theorem nested_of_no_bracket {cs : List Char} (hopening : '(' ∉ cs) (hclosing : ')' ∉ cs) :
    Nested cs where
  balanced := by rw [List.count_eq_zero_of_not_mem hopening, List.count_eq_zero_of_not_mem hclosing]
  closed := by
    intro tail htail
    have hnone : '(' ∉ tail := fun hmem => hopening (htail.subset hmem)
    rw [List.count_eq_zero_of_not_mem hnone]
    exact Nat.zero_le _

/-- Nested texts are nested one behind the other. -/
theorem Nested.append {cs ds : List Char} (hcs : Nested cs) (hds : Nested ds) :
    Nested (cs ++ ds) where
  balanced := by rw [List.count_append, List.count_append, hcs.balanced, hds.balanced]
  closed := by
    intro tail htail
    rcases List.suffix_or_suffix_of_suffix htail (List.suffix_append cs ds) with hshort | hlong
    · exact hds.closed tail hshort
    · obtain ⟨front, rfl⟩ := hlong
      have hclosed := hcs.closed front (List.suffix_append_self_iff.1 htail)
      rw [List.count_append, List.count_append, hds.balanced]
      omega

/-- What is closed by a bracket has more closing brackets than opening ones. -/
theorem Nested.lt_of_suffix {cs tail : List Char} (h : Nested cs) (htail : tail <:+ cs ++ [')'])
    (hne : tail ≠ []) : tail.count '(' < tail.count ')' := by
  obtain hnil | ⟨front, rfl, hfront⟩ := List.suffix_concat_iff.1 htail
  · exact absurd hnil hne
  · have hclosed := h.closed front hfront
    have hopening : [')'].count '(' = 0 := rfl
    have hclosing : [')'].count ')' = 1 := rfl
    rw [List.count_append, List.count_append, hopening, hclosing]
    omega

/-- A nested text in brackets is nested. -/
theorem Nested.bracket {cs : List Char} (h : Nested cs) : Nested ('(' :: cs ++ [')']) where
  balanced := by simp [h.balanced]
  closed := by
    intro tail htail
    rcases List.suffix_cons_iff.1 htail with rfl | hproper
    · simp [h.balanced]
    · by_cases hne : tail = []
      · simp [hne]
      · exact Nat.le_of_lt (h.lt_of_suffix hproper hne)

/-- Joined texts are nested if they and the separator are. -/
theorem nested_join {separator : String} {texts : List String}
    (hseparator : Nested separator.toList) (h : ∀ s ∈ texts, Nested s.toList) :
    Nested (Text.join separator texts).toList := by
  induction texts with
  | nil => exact nested_of_no_bracket List.not_mem_nil List.not_mem_nil
  | cons s rest ih =>
    obtain ⟨hs, hrest⟩ := List.forall_mem_cons.1 h
    cases rest with
    | nil => exact hs
    | cons t rest =>
      rw [Text.join_cons_cons, String.toList_append, String.toList_append]
      exact (hs.append hseparator).append (ih hrest)

/-- Two bracketed lists at the end of one list are the same: the shorter one would otherwise end the
longer one behind its first bracket, and close more brackets than it opens. -/
theorem eq_of_bracket_suffix {cs ds : List Char} (hcs : Nested cs) (hds : Nested ds)
    (h : '(' :: cs ++ [')'] <:+ '(' :: ds ++ [')']) : '(' :: cs ++ [')'] = '(' :: ds ++ [')'] := by
  rcases List.suffix_cons_iff.1 h with heq | hproper
  · exact heq
  · have hlt := hds.lt_of_suffix hproper (by simp)
    rw [hcs.bracket.balanced] at hlt
    exact absurd hlt (Nat.lt_irrefl _)

/-- A bracketed list is found again behind any other list. -/
theorem append_bracket_inj {s t cs ds : List Char} (hcs : Nested cs) (hds : Nested ds)
    (h : s ++ ('(' :: cs ++ [')']) = t ++ ('(' :: ds ++ [')'])) :
    s = t ∧ '(' :: cs ++ [')'] = '(' :: ds ++ [')'] := by
  have hsame : '(' :: cs ++ [')'] = '(' :: ds ++ [')'] := by
    have hleft := List.suffix_append s ('(' :: cs ++ [')'])
    have hright := List.suffix_append t ('(' :: ds ++ [')'])
    rw [h] at hleft
    rcases List.suffix_or_suffix_of_suffix hleft hright with hshort | hlong
    · exact eq_of_bracket_suffix hcs hds hshort
    · exact (eq_of_bracket_suffix hds hcs hlong).symm
  rw [hsame] at h
  exact ⟨List.append_cancel_right h, hsame⟩

namespace ParamType

/-! ## Canonical texts -/

/-- A text of characters of names is nested. -/
theorem nested_of_all_isNameChar {cs : List Char} (h : cs.all Naming.isNameChar) : Nested cs := by
  rw [List.all_eq_true] at h
  refine nested_of_no_bracket ?_ ?_
  · intro hmem
    exact absurd (h _ hmem) (by decide)
  · intro hmem
    exact absurd (h _ hmem) (by decide)

/-- The components of a tuple are nested if each of them is. -/
theorem nested_components {components : List (String × ParamType)}
    (h : ∀ c ∈ components, Nested c.2.canonical.toList) :
    Nested (Text.join "," (canonicalComponents components)).toList := by
  rw [canonicalComponents_eq]
  apply nested_join
  · exact nested_of_no_bracket (by decide) (by decide)
  · intro s hs
    obtain ⟨c, hc, rfl⟩ := List.mem_map.1 hs
    exact h c hc

/-- The brackets in the text of a type are nested. -/
theorem nested_canonical (type : ParamType) : Nested type.canonical.toList := by
  induction type using shapeInduction with
  | elementary type h =>
    rw [← Naming.typeSuffix_of_isElementary h]
    exact nested_of_all_isNameChar (Naming.all_isNameChar_typeSuffix type)
  | array element ih =>
    rw [canonical, String.toList_append]
    exact ih.append (nested_of_no_bracket (by decide) (by decide))
  | fixedArray element length ih =>
    have hlength : Nested (toString length).toList :=
      nested_of_all_isNameChar (Naming.all_isNameChar_toString length)
    rw [canonical, String.toList_append, String.toList_append, String.toList_append]
    refine ((ih.append ?_).append hlength).append ?_
    · exact nested_of_no_bracket (by decide) (by decide)
    · exact nested_of_no_bracket (by decide) (by decide)
  | tuple components ih =>
    rw [canonical, String.toList_append, String.toList_append]
    exact (nested_components ih).bracket

/-- Two types have the same canonical text exactly if they differ in nothing but the names of
components. -/
theorem canonical_inj {type other : ParamType} :
    type.canonical = other.canonical ↔ type.unnamed = other.unnamed := by
  constructor
  · intro h
    have hsuffix : Naming.overloadSuffix [type] = Naming.overloadSuffix [other] := by
      show Naming.typeSuffix type = Naming.typeSuffix other
      rw [← String.toList_inj, ← Naming.flatMap_suffixChar_canonical, h,
        Naming.flatMap_suffixChar_canonical]
    simpa using Naming.overloadSuffix_inj.1 hsuffix
  · intro h
    rw [← canonical_unnamed type, h, canonical_unnamed]

/-- Types with the same text in brackets are the same, but for the names of components. -/
theorem canonicalTuple_inj {types others : List ParamType} :
    canonicalTuple types = canonicalTuple others ↔ types.map unnamed = others.map unnamed := by
  rw [canonicalTuple_eq, canonicalTuple_eq, canonical_inj, unnamed, unnamed, unnamedComponents_eq,
    unnamedComponents_eq, map_snd_asComponents, map_snd_asComponents, tuple.injEq,
    asComponents_injective.eq_iff]

/-- The text of types is a nested one in brackets. -/
theorem exists_canonicalTuple_eq_bracket (types : List ParamType) :
    ∃ cs, Nested cs ∧ (canonicalTuple types).toList = '(' :: cs ++ [')'] := by
  refine ⟨_, nested_components fun c (_ : c ∈ asComponents types) => nested_canonical c.2, ?_⟩
  rw [canonicalTuple_eq, canonical, String.toList_append, String.toList_append]
  rfl

end ParamType

/-! ## Signatures -/

/-- A signature shows the name and the types without the names of their components, and no more. -/
theorem signatureOf_inj {name other : String} {types others : List ParamType} :
    signatureOf name types = signatureOf other others ↔
      name = other ∧ types.map ParamType.unnamed = others.map ParamType.unnamed := by
  constructor
  · intro h
    obtain ⟨cs, hcs, htypes⟩ := ParamType.exists_canonicalTuple_eq_bracket types
    obtain ⟨ds, hds, hothers⟩ := ParamType.exists_canonicalTuple_eq_bracket others
    rw [signatureOf, signatureOf, ← String.toList_inj, String.toList_append, String.toList_append,
      htypes, hothers] at h
    obtain ⟨hname, hbracket⟩ := append_bracket_inj hcs hds h
    rw [← htypes, ← hothers] at hbracket
    exact ⟨String.toList_inj.1 hname,
      ParamType.canonicalTuple_inj.1 (String.toList_inj.1 hbracket)⟩
  · rintro ⟨rfl, htypes⟩
    rw [signatureOf, signatureOf, ParamType.canonicalTuple_inj.2 htypes]

/-- Signatures are unambiguous: entries whose inputs have types have signatures, and these are the
same exactly if the names are and the types differ in nothing but the names of components. -/
theorem signature_unambiguous {e f : Entry} {types others : List ParamType}
    (he : e.inputTypes = .ok types) (hf : f.inputTypes = .ok others) :
    ∃ s t, e.signature = .ok s ∧ f.signature = .ok t ∧
      (s = t ↔ e.title = f.title ∧
        types.map ParamType.unnamed = others.map ParamType.unnamed) := by
  refine ⟨signatureOf e.title types, signatureOf f.title others, ?_, ?_, signatureOf_inj⟩
  · rw [Entry.signature, he]
    rfl
  · rw [Entry.signature, hf]
    rfl

/-- A function whose name looks like a signature, with an array of pairs for its input. -/
def swapEntry (first second : String) : Entry :=
  ⟨.function, some "swap(bool),(",
    [⟨"pairs", "tuple[]", [⟨first, "uint8", [], false⟩, ⟨second, "bytes32[2]", [], false⟩], false⟩],
    [], .nonpayable, false⟩

/-- Entries that differ in the names of components alone have one signature. -/
theorem signature_unambiguous_swap : ∃ s,
    (swapEntry "x" "y").signature = .ok s ∧ (swapEntry "to" "").signature = .ok s := by
  have hnamed : (swapEntry "x" "y").inputTypes =
      .ok [.array (.tuple [("x", .uint 8), ("y", .fixedArray (.fixedBytes 32) 2)])] := by
    with_unfolding_all rfl
  have hother : (swapEntry "to" "").inputTypes =
      .ok [.array (.tuple [("to", .uint 8), ("", .fixedArray (.fixedBytes 32) 2)])] := by
    with_unfolding_all rfl
  obtain ⟨s, t, hs, ht, hsame⟩ := signature_unambiguous hnamed hother
  obtain rfl := hsame.2 ⟨rfl, rfl⟩
  exact ⟨s, hs, ht⟩

end AbiBindings.Abi
