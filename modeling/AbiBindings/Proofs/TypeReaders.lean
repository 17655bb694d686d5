import AbiBindings.Proofs.TypeRoundTrip

/-!
# The two readers of types

A type is read with components beside its text or alone. The readers find the same type in every
text that both accept; they differ in the blanks around an elementary name, which only the first
passes over (`type_readers_agree`). Components count for nothing unless the innermost element of the
text is the word `tuple`: not for the type and not for the error.
-/

set_option autoImplicit false

namespace AbiBindings.Abi.ParamType

open Text

/-! ## Texts that both readers accept -/

/-- What a text stands for without components it stands for with any. -/
theorem denotes_of_no_components {raw : String} {type : ParamType} (h : Denotes raw [] type)
    (components : List Parameter) : Denotes raw components type := by
  cases h with
  | elementary hname => exact .elementary hname
  | tuple _ hne _ => exact absurd rfl hne
  | array htext helement => exact .array htext (denotes_of_no_components helement components)
  | fixedArray htext hpos hlimit helement =>
    exact .fixedArray htext hpos hlimit (denotes_of_no_components helement components)

/-- The blanks around a text do not matter. -/
theorem denotes_trim {raw : String} {components : List Parameter} {type : ParamType}
    (h : Denotes raw components type) : Denotes (trim raw) components type := by
  cases h with
  | elementary hname => exact .elementary (by rwa [trim_trim])
  | tuple hword hne hfields => exact .tuple (by rwa [trim_trim]) hne hfields
  | array htext helement => exact .array (by rwa [trim_trim]) helement
  | fixedArray htext hpos hlimit helement =>
    exact .fixedArray (by rwa [trim_trim]) hpos hlimit helement

/-- A text that is read alone has brackets at its end or is an elementary name without blanks around
it. -/
theorem denotes_of_parseAlone {raw : String} {type : ParamType} (h : parseAlone raw = .ok type) :
    Denotes raw [] type ∧ (raw.toList.getLast? = some ']' ∨ raw = trim raw) := by
  unfold parseAlone at h
  split at h
  · exact ⟨parse_eq_ok_iff.1 h, Or.inl ‹_›⟩
  · split at h
    · rename_i found hname
      obtain rfl := Except.ok.inj h
      have helementary := elementaryName_of_elementary? hname
      rw [String.ofList_toList] at helementary
      have htrim := trim_eq_self (all_not_isBlank (all_isNameChar_of_elementaryName helementary))
      exact ⟨.elementary (by rwa [htrim]), Or.inr htrim.symm⟩
    · cases h

/-- Alone, a text is read as it is without components, if it ends with a bracket or has no blanks
around it. -/
theorem parseAlone_eq_ok_iff {raw : String} {type : ParamType} :
    parseAlone raw = .ok type ↔
      parse raw [] = .ok type ∧ (raw.toList.getLast? = some ']' ∨ raw = trim raw) := by
  constructor
  · intro h
    obtain ⟨hdenotes, hends⟩ := denotes_of_parseAlone h
    exact ⟨parse_of_denotes hdenotes, hends⟩
  · rintro ⟨hparse, hclosed | htrim⟩
    · rw [parseAlone, if_pos hclosed, hparse]
    · exact parseAlone_of_denotes (parse_eq_ok_iff.1 hparse) htrim.symm

/-! ## The innermost element -/

/-- What may stand between the brackets of an array. -/
inductive IsLength : String → Prop
  | any : IsLength ""
  | fixed {length : Nat} : 0 < length → length < lengthLimit → IsLength (toString length)

/-- What remains of a text if array suffixes are taken away from its end, with blanks removed each
time. -/
inductive Innermost : String → String → Prop
  | bare {raw : String} :
    (∀ element length, IsLength length → trim raw ≠ element ++ "[" ++ length ++ "]") →
      Innermost raw (trim raw)
  | array {raw element length inner : String} : trim raw = element ++ "[" ++ length ++ "]" →
    IsLength length → Innermost element inner → Innermost raw inner

/-- A text is a length exactly if any element makes an array with it. -/
theorem isLength_iff {size : List Char} :
    IsLength (String.ofList size) ↔ ∀ element, ∃ type, arrayOf? element size = some type := by
  simp only [arrayOf?_eq_some_iff]
  constructor
  · intro h element
    generalize htext : String.ofList size = text at h
    cases h with
    | any => exact ⟨_, Or.inl ⟨by simpa using htext, rfl⟩⟩
    | @fixed length hpos hlimit =>
      have hsize : size = (toString length).toList := by rw [← htext, String.toList_ofList]
      exact ⟨_, Or.inr ⟨length, hsize, hpos, hlimit, rfl⟩⟩
  · intro h
    obtain ⟨_, ⟨rfl, -⟩ | ⟨length, rfl, hpos, hlimit, -⟩⟩ := h .bool
    · exact .any
    · rw [String.ofList_toList]
      exact .fixed hpos hlimit

/-- A length has no bracket. -/
theorem bracket_not_mem_of_isLength {length : String} (h : IsLength length) :
    '[' ∉ length.toList := by
  cases h with
  | any => simp
  | @fixed length _ _ =>
    intro hmem
    exact absurd (List.all_eq_true.1 (Text.all_isDigit_toString length) _ hmem) (by decide)

/-- A text with an array suffix, as the characters that are searched. -/
theorem trimChars_of_suffix {raw element length : String}
    (h : trim raw = element ++ "[" ++ length ++ "]") :
    trimChars raw.toList = element.toList ++ '[' :: (length.toList ++ [']']) := by
  rw [← toList_trim, h]
  simp

/-- The last array suffix of a text can be taken away in one way only. -/
theorem eq_of_suffix {element element' length length' : String}
    (hlength : IsLength length) (hlength' : IsLength length')
    (h : element ++ "[" ++ length ++ "]" = element' ++ "[" ++ length' ++ "]") :
    element = element' := by
  have hbefore (element length : String) (hlength : IsLength length) :
      (element ++ "[" ++ length ++ "]").toList.reverse.dropWhile (· != '[') =
        '[' :: element.toList.reverse := by
    have hnone : ∀ c ∈ length.toList.reverse, (c != '[') = true := by
      intro c hc
      rw [bne_iff_ne]
      rintro rfl
      exact bracket_not_mem_of_isLength hlength (List.mem_reverse.1 hc)
    simp [List.dropWhile_append_of_pos hnone]
  have hsame := hbefore element length hlength
  rw [h, hbefore element' length' hlength'] at hsame
  simpa [String.toList_inj, eq_comm] using hsame

/-- A text has one innermost element. -/
theorem Innermost.unique {raw inner inner' : String} (h : Innermost raw inner)
    (h' : Innermost raw inner') : inner = inner' := by
  induction h with
  | bare hnone =>
    cases h' with
    | bare => rfl
    | array htext hlength _ => exact absurd htext (hnone _ _ hlength)
  | array htext hlength _ ih =>
    cases h' with
    | bare hnone => exact absurd htext (hnone _ _ hlength)
    | array htext' hlength' helement' =>
      obtain rfl := eq_of_suffix hlength hlength' (htext ▸ htext')
      exact ih helement'

/-- Every text has an innermost element. -/
theorem exists_innermost (raw : String) : ∃ inner, Innermost raw inner := by
  induction hn : raw.toList.length using Nat.strongRecOn generalizing raw with
  | ind n ih =>
    by_cases hsuffix : ∃ element length, IsLength length ∧
        trim raw = element ++ "[" ++ length ++ "]"
    · obtain ⟨element, length, hlength, htext⟩ := hsuffix
      have hshorter := length_trimChars_le raw.toList
      rw [trimChars_of_suffix htext, List.length_append, List.length_cons] at hshorter
      obtain ⟨inner, hinner⟩ := ih element.toList.length (by omega) element rfl
      exact ⟨inner, .array htext hlength hinner⟩
    · push Not at hsuffix
      exact ⟨trim raw, .bare hsuffix⟩

/-! ## Components that do not count -/

section Reading

variable {base base' : List Char → Except TypeError ParamType} {raw inner : String}

/-- A text with a bracket at its end but without a suffix there is no type. -/
theorem readArrays_eq_error (hclosed : (trimChars raw.toList).getLast? = some ']')
    (hnone : ∀ element length, IsLength length → trim raw ≠ element ++ "[" ++ length ++ "]") :
    readArrays base raw.toList = .error ⟨raw⟩ := by
  cases hread : readArrays base raw.toList with
  | error error =>
    rw [eq_of_readArrays_eq_error hread hclosed, String.ofList_toList]
  | ok type =>
    obtain ⟨element, size, elementType, htext, -, -, harray⟩ :=
      brackets_of_readArrays hread hclosed
    have hlength : IsLength (String.ofList size) := by
      rw [isLength_iff]
      intro other
      obtain ⟨hsize, -⟩ | ⟨length, hsize, hpos, hlimit, -⟩ := arrayOf?_eq_some_iff.1 harray
      · exact ⟨_, arrayOf?_eq_some_iff.2 (Or.inl ⟨hsize, rfl⟩)⟩
      · exact ⟨_, arrayOf?_eq_some_iff.2 (Or.inr ⟨length, hsize, hpos, hlimit, rfl⟩)⟩
    exfalso
    apply hnone (String.ofList element) _ hlength
    rw [← String.toList_inj, toList_trim, htext]
    simp

/-- Of what is done with texts that have no suffix, only what is done with the innermost element
matters. -/
theorem readArrays_congr (h : Innermost raw inner)
    (hbase : ∀ s, trim s = inner → base s.toList = base' s.toList) :
    readArrays base raw.toList = readArrays base' raw.toList := by
  induction h with
  | @bare raw hnone =>
    by_cases hclosed : (trimChars raw.toList).getLast? = some ']'
    · rw [readArrays_eq_error hclosed hnone, readArrays_eq_error hclosed hnone]
    · rw [readArrays_of_not_closed hclosed, readArrays_of_not_closed hclosed, hbase raw rfl]
  | array htext hlength _ ih =>
    have hbrackets := trimChars_of_suffix htext
    have hsize := bracket_not_mem_of_isLength hlength
    rw [readArrays_of_brackets hsize hbrackets, readArrays_of_brackets hsize hbrackets, ih hbase]

/-- Array suffixes can be read behind every element. -/
theorem exists_readArrays_iff (h : Innermost raw inner) (hopen : inner.toList.getLast? ≠ some ']')
    {p : Prop} (hbase : ∀ s, trim s = inner → ((∃ type, base s.toList = .ok type) ↔ p)) :
    (∃ type, readArrays base raw.toList = .ok type) ↔ p := by
  induction h with
  | @bare raw hnone =>
    rw [toList_trim] at hopen
    rw [readArrays_of_not_closed hopen]
    exact hbase raw rfl
  | @array raw element length inner htext hlength _ ih =>
    rw [← ih hopen hbase, readArrays_of_brackets (bracket_not_mem_of_isLength hlength)
      (trimChars_of_suffix htext)]
    simp only [readArray_eq_ok_iff]
    rw [← String.ofList_toList (s := length), isLength_iff] at hlength
    constructor
    · rintro ⟨_, type, htype, -⟩
      exact ⟨type, htype⟩
    · rintro ⟨type, htype⟩
      obtain ⟨array, harray⟩ := hlength type
      exact ⟨array, type, htype, harray⟩

end Reading

/-- A text other than the bare word for a tuple is blamed itself, whatever is wrong with it. -/
theorem eq_of_ofText_eq_error {raw : String} (h : trim raw ≠ "tuple")
    {components : Except TypeError (List (String × ParamType))} {error : TypeError}
    (herror : ofText raw components = .error error) : error = ⟨raw⟩ := by
  have hword : trimChars raw.toList ≠ "tuple".toList := by
    rwa [← toList_trim, Ne, String.toList_inj]
  rw [← String.ofList_toList (s := raw)]
  rw [ofText] at herror
  by_cases hclosed : (trimChars raw.toList).getLast? = some ']'
  · exact eq_of_readArrays_eq_error herror hclosed
  · rw [readArrays_of_not_closed hclosed] at herror
    unfold readInnermost at herror
    rw [if_neg hword] at herror
    split at herror
    · cases herror
    · exact (Except.error.inj herror).symm

/-- A text whose innermost element is the word for a tuple is read if and only if its components
make a tuple. -/
theorem exists_parse_iff_of_tuple {raw : String} (h : Innermost raw "tuple")
    (components : List Parameter) : (∃ type, parse raw components = .ok type) ↔
      ∃ fields, ofComponents components = .ok fields ∧ fields ≠ [] := by
  have hopen : "tuple".toList.getLast? ≠ some ']' := by decide
  refine exists_readArrays_iff h hopen fun s hs => ?_
  have hword : trimChars s.toList = "tuple".toList := by rw [← toList_trim, hs]
  unfold readInnermost
  rw [if_pos hword]
  rcases ofComponents components with error | _ | ⟨field, rest⟩ <;> simp

/-- Components do not matter unless the innermost element is the word for a tuple. -/
theorem parse_eq_of_ne_tuple {raw inner : String} (h : Innermost raw inner) (hne : inner ≠ "tuple")
    (components components' : List Parameter) : parse raw components = parse raw components' := by
  refine readArrays_congr h fun s hs => ?_
  have hword : trimChars s.toList ≠ "tuple".toList := by
    rwa [← toList_trim, hs, Ne, String.toList_inj]
  unfold readInnermost
  rw [if_neg hword, if_neg hword]

/-- The components beside a text do not matter exactly if its innermost element is not the word for
a tuple. -/
theorem parse_congr_iff {raw inner : String} (h : Innermost raw inner) :
    inner ≠ "tuple" ↔
      ∀ components components', parse raw components = parse raw components' := by
  constructor
  · exact parse_eq_of_ne_tuple h
  · rintro hsame rfl
    have hbool : Denotes "bool" [] .bool := denotes_rawText .bool
    have hflag : ∃ type, parse raw [⟨"", "bool", [], false⟩] = .ok type := by
      rw [exists_parse_iff_of_tuple h]
      exact ⟨[("", .bool)], ofComponents_of_denoteFields (.cons hbool .nil), by simp⟩
    rw [hsame _ [], exists_parse_iff_of_tuple h] at hflag
    obtain ⟨fields, hfields, hne⟩ := hflag
    exact hne (Except.ok.inj hfields).symm

/-- The two readers of types agree. What is read alone is read with any components; what is read
without components is read alone once it is trimmed, and as it stands exactly if it ends with a
bracket or has no blanks around it. Every text has one innermost element, and components change
nothing about the outcome, be it a type or an error, exactly if that is not the word for a tuple. -/
theorem type_readers_agree (raw : String) :
    (∀ type components, parseAlone raw = .ok type → parse raw components = .ok type) ∧
      (∀ type, parse raw [] = .ok type → parseAlone (trim raw) = .ok type) ∧
      (∀ type, parseAlone raw = .ok type ↔
        parse raw [] = .ok type ∧ (raw.toList.getLast? = some ']' ∨ raw = trim raw)) ∧
      ∃ inner, Innermost raw inner ∧ (∀ other, Innermost raw other → other = inner) ∧
        (inner ≠ "tuple" ↔
          ∀ components components', parse raw components = parse raw components') := by
  refine ⟨?_, ?_, fun type => parseAlone_eq_ok_iff, ?_⟩
  · intro type components h
    obtain ⟨hdenotes, -⟩ := denotes_of_parseAlone h
    exact parse_of_denotes (denotes_of_no_components hdenotes components)
  · intro type h
    exact parseAlone_of_denotes (denotes_trim (parse_eq_ok_iff.1 h)) (trim_trim raw)
  · obtain ⟨inner, hinner⟩ := exists_innermost raw
    exact ⟨inner, hinner, fun _ hother => hother.unique hinner, parse_congr_iff hinner⟩

/-- A text with blanks around it and before its bracket. -/
def spacedText : String := "\u00a0uint8 [3] "

/-- With the blanks around it only the reader with components takes the text; without them both do.
-/
theorem type_readers_agree_spaced : parse spacedText [] = .ok (.fixedArray (.uint 8) 3) ∧
    parseAlone "uint8 [3]" = .ok (.fixedArray (.uint 8) 3) ∧
    parseAlone spacedText ≠ .ok (.fixedArray (.uint 8) 3) := by
  obtain ⟨-, htrimmed, halone, -⟩ := type_readers_agree spacedText
  have htrim : trim spacedText = "uint8 [3]" := by decide +kernel
  have helement : Denotes "uint8 " [] (.uint 8) := by
    have hname : trim "uint8 " = "uint" ++ toString 8 := by decide +kernel
    exact .elementary (hname ▸ .uint (by decide))
  have hbrackets : trim spacedText = "uint8 " ++ "[" ++ toString 3 ++ "]" := by decide +kernel
  have hparse : parse spacedText [] = .ok (.fixedArray (.uint 8) 3) :=
    parse_of_denotes (.fixedArray hbrackets (by decide) (by decide) helement)
  refine ⟨hparse, htrim ▸ htrimmed _ hparse, ?_⟩
  rw [Ne, halone, htrim]
  rintro ⟨-, hends⟩
  revert hends
  decide +kernel

end AbiBindings.Abi.ParamType
