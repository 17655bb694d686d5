import AbiBindings.Abi.TypeText
import AbiBindings.Proofs.Names
import AbiBindings.Proofs.Numerals
import AbiBindings.Proofs.Traversal
import AbiBindings.Proofs.Trimming

/-!
# The grammar of types

`Denotes` says which texts stand for which types, without regard to how a text is searched:
elementary names, the word `tuple` with the types of the components, and a text with brackets behind
it, each with blanks around it. The reader of types finds exactly the types of this grammar and
refuses every other text (`parse_accepts_grammar`).
-/

set_option autoImplicit false

namespace AbiBindings.Abi

open ParamType

/-- Whether a number is the width of an integer. -/
def IsWidth (bits : Nat) : Prop :=
  8 ≤ bits ∧ bits ≤ 256 ∧ 8 ∣ bits

/-- Whether a number is a width is decided by its bounds. -/
instance (bits : Nat) : Decidable (IsWidth bits) :=
  inferInstanceAs (Decidable (_ ∧ _))

/-- The elementary names and the types that they stand for. -/
inductive ElementaryName : String → ParamType → Prop
  | address : ElementaryName "address" .address
  | bool : ElementaryName "bool" .bool
  | string : ElementaryName "string" .string
  | bytes : ElementaryName "bytes" .bytes
  | byte : ElementaryName "byte" (.fixedBytes 1)
  | plainUint : ElementaryName "uint" (.uint 256)
  | plainInt : ElementaryName "int" (.int 256)
  | uint {bits : Nat} : IsWidth bits → ElementaryName ("uint" ++ toString bits) (.uint bits)
  | int {bits : Nat} : IsWidth bits → ElementaryName ("int" ++ toString bits) (.int bits)
  | fixedBytes {size : Nat} :
    1 ≤ size → size ≤ 32 → ElementaryName ("bytes" ++ toString size) (.fixedBytes size)

mutual

/-- The types that texts stand for, given the components of their innermost tuple. -/
inductive Denotes : String → List Parameter → ParamType → Prop
  | elementary {raw : String} {components : List Parameter} {type : ParamType} :
    ElementaryName (Text.trim raw) type → Denotes raw components type
  | tuple {raw : String} {components : List Parameter} {fields : List (String × ParamType)} :
    Text.trim raw = "tuple" → components ≠ [] → DenoteFields components fields →
      Denotes raw components (.tuple fields)
  | array {raw element : String} {components : List Parameter} {type : ParamType} :
    Text.trim raw = element ++ "[]" → Denotes element components type →
      Denotes raw components (.array type)
  | fixedArray {raw element : String} {components : List Parameter} {type : ParamType}
      {length : Nat} :
    Text.trim raw = element ++ "[" ++ toString length ++ "]" → 0 < length →
      length < lengthLimit → Denotes element components type →
      Denotes raw components (.fixedArray type length)

/-- The fields that components stand for: their names with their own types, in order. -/
inductive DenoteFields : List Parameter → List (String × ParamType) → Prop
  | nil : DenoteFields [] []
  | cons {p : Parameter} {rest : List Parameter} {type : ParamType}
      {fields : List (String × ParamType)} :
    Denotes p.type p.components type → DenoteFields rest fields →
      DenoteFields (p :: rest) ((p.name, type) :: fields)

end

namespace ParamType

/-! ## Numbers and elementary names -/

/-- A size is read from the numeral of a number below the limit. -/
theorem size?_eq_some_iff {cs : List Char} {n : Nat} :
    size? cs = some n ↔ cs = (toString n).toList ∧ n < lengthLimit := by
  rw [size?, Option.filter_eq_some_iff, Text.numeral?_eq_some_iff, decide_eq_true_eq]

/-- A numeral has digits. -/
theorem toList_toString_ne_nil (n : Nat) : (toString n).toList ≠ [] := by
  simp

/-- The check of a width is that it is one. -/
theorem isWidth_iff (n : Nat) : (8 ≤ n && n ≤ 256 && n % 8 == 0) ↔ IsWidth n := by
  simp [IsWidth, Nat.dvd_iff_mod_eq_zero, and_assoc]

/-- A width is read from its numeral, and the greatest one from nothing. -/
theorem width?_eq_some_iff {cs : List Char} {n : Nat} :
    width? cs = some n ↔ cs = [] ∧ n = 256 ∨ cs = (toString n).toList ∧ IsWidth n := by
  unfold width?
  by_cases hcs : cs = []
  · rw [hcs, List.isEmpty_nil, if_pos rfl, Option.some.injEq]
    constructor
    · rintro rfl
      exact Or.inl ⟨rfl, rfl⟩
    · rintro (⟨-, rfl⟩ | ⟨htext, -⟩)
      · rfl
      · exact absurd htext.symm (toList_toString_ne_nil n)
  · rw [if_neg (by simpa using hcs), Option.filter_eq_some_iff, size?_eq_some_iff, isWidth_iff]
    constructor
    · rintro ⟨⟨htext, -⟩, hwidth⟩
      exact Or.inr ⟨htext, hwidth⟩
    · rintro (⟨hnil, -⟩ | ⟨htext, hwidth⟩)
      · exact absurd hnil hcs
      · have hlimit : 256 < lengthLimit := by decide
        exact ⟨⟨htext, Nat.lt_of_le_of_lt hwidth.2.1 hlimit⟩, hwidth⟩

/-- Letters with the digits of a number behind them, as text. -/
theorem ofList_append_toString (letters : String) (n : Nat) :
    String.ofList (letters.toList ++ (toString n).toList) = letters ++ toString n := by
  rw [← String.toList_append, String.ofList_toList]

/-- The name of a type that is found is its name. -/
theorem elementaryName_of_eq {name : String} {cs : List Char} {type found : ParamType}
    (hname : ElementaryName name type) (hcs : cs = name.toList) (hfound : some type = some found) :
    ElementaryName (String.ofList cs) found := by
  obtain rfl := Option.some.inj hfound
  rwa [hcs, String.ofList_toList]

/-- What is read as an elementary type is a name of it. -/
theorem elementaryName_of_elementary? {cs : List Char} {type : ParamType}
    (h : elementary? cs = some type) : ElementaryName (String.ofList cs) type := by
  unfold elementary? at h
  split at h
  · exact elementaryName_of_eq .address ‹_› h
  split at h
  · exact elementaryName_of_eq .bool ‹_› h
  split at h
  · exact elementaryName_of_eq .string ‹_› h
  split at h
  · exact elementaryName_of_eq .bytes ‹_› h
  split at h
  · exact elementaryName_of_eq .byte ‹_› h
  split at h
  · obtain ⟨n, hwidth, rfl⟩ := Option.map_eq_some_iff.1 h
    rcases width?_eq_some_iff.1 hwidth with ⟨rfl, rfl⟩ | ⟨rfl, hbits⟩
    · exact .plainUint
    · exact ofList_append_toString "uint" n ▸ .uint hbits
  · obtain ⟨n, hwidth, rfl⟩ := Option.map_eq_some_iff.1 h
    rcases width?_eq_some_iff.1 hwidth with ⟨rfl, rfl⟩ | ⟨rfl, hbits⟩
    · exact .plainInt
    · exact ofList_append_toString "int" n ▸ .int hbits
  · obtain ⟨n, hsize, rfl⟩ := Option.map_eq_some_iff.1 h
    obtain ⟨htext, hbounds⟩ := Option.filter_eq_some_iff.1 hsize
    obtain ⟨rfl, -⟩ := size?_eq_some_iff.1 htext
    simp only [Bool.and_eq_true, decide_eq_true_eq] at hbounds
    exact ofList_append_toString "bytes" n ▸ .fixedBytes hbounds.1 hbounds.2
  · cases h

section Letters

variable (digits : List Char)

/-- A type of unsigned integers is read from its width. -/
theorem elementary?_uint : elementary? ("uint".toList ++ digits) = (width? digits).map .uint := by
  have hletters : "uint".toList = ['u', 'i', 'n', 't'] := rfl
  unfold elementary?
  simp [hletters]

/-- A type of signed integers is read from its width. -/
theorem elementary?_int : elementary? ("int".toList ++ digits) = (width? digits).map .int := by
  have hletters : "int".toList = ['i', 'n', 't'] := rfl
  unfold elementary?
  simp [hletters]

/-- A type of bytes of fixed length is read from its length. -/
theorem elementary?_bytes (h : digits ≠ []) : elementary? ("bytes".toList ++ digits) =
    ((size? digits).filter fun n => 1 ≤ n && n ≤ 32).map .fixedBytes := by
  have hletters : "bytes".toList = ['b', 'y', 't', 'e', 's'] := rfl
  unfold elementary?
  simp [hletters, h]

end Letters

/-- A name of an elementary type is read as that type. -/
theorem elementary?_of_elementaryName {name : String} {type : ParamType}
    (h : ElementaryName name type) : elementary? name.toList = some type := by
  cases h with
  | address | bool | string | bytes | byte =>
    unfold elementary?
    simp
  | plainUint => exact elementary?_uint []
  | plainInt => exact elementary?_int []
  | @uint bits hbits =>
    have hwidth := width?_eq_some_iff.2 (Or.inr ⟨rfl, hbits⟩)
    rw [String.toList_append, elementary?_uint, hwidth, Option.map_some]
  | @int bits hbits =>
    have hwidth := width?_eq_some_iff.2 (Or.inr ⟨rfl, hbits⟩)
    rw [String.toList_append, elementary?_int, hwidth, Option.map_some]
  | @fixedBytes size hlow hhigh =>
    have hlimit : 32 < lengthLimit := by decide
    have hsize := size?_eq_some_iff.2 ⟨rfl, Nat.lt_of_le_of_lt hhigh hlimit⟩
    rw [String.toList_append, elementary?_bytes _ (toList_toString_ne_nil size), hsize,
      Option.filter_some, if_pos, Option.map_some]
    simp [hlow, hhigh]

/-! ## Arrays -/

/-- Brackets make an array of any length if they are empty, and one of a fixed length if they hold
the numeral of a positive number below the limit. -/
theorem arrayOf?_eq_some_iff {element type : ParamType} {size : List Char} :
    arrayOf? element size = some type ↔ size = [] ∧ type = .array element ∨
      ∃ length, size = (toString length).toList ∧ 0 < length ∧ length < lengthLimit ∧
        type = .fixedArray element length := by
  unfold arrayOf?
  by_cases hsize : size = []
  · rw [hsize, List.isEmpty_nil, if_pos rfl, Option.some.injEq]
    constructor
    · rintro rfl
      exact Or.inl ⟨rfl, rfl⟩
    · rintro (⟨-, rfl⟩ | ⟨length, htext, -⟩)
      · rfl
      · exact absurd htext.symm (toList_toString_ne_nil length)
  · simp only [List.isEmpty_iff, hsize, if_false, false_and, false_or, Option.map_eq_some_iff,
      Option.filter_eq_some_iff, size?_eq_some_iff, decide_eq_true_eq]
    constructor
    · rintro ⟨length, ⟨⟨htext, hlimit⟩, hpos⟩, rfl⟩
      exact ⟨length, htext, hpos, hlimit, rfl⟩
    · rintro ⟨length, htext, hpos, hlimit, rfl⟩
      exact ⟨length, ⟨⟨htext, hlimit⟩, hpos⟩, rfl⟩

section Brackets

variable {base : List Char → Except TypeError ParamType} {raw size : List Char}
  {element : Except TypeError ParamType}

/-- An array is read if its element is and the brackets hold a size. -/
theorem readArray_eq_ok_iff {type : ParamType} :
    readArray raw size element = .ok type ↔
      ∃ elementType, element = .ok elementType ∧ arrayOf? elementType size = some type := by
  unfold readArray
  cases element with
  | error error => simp [Except.mapError, bind, Except.bind]
  | ok elementType =>
    simp only [Except.mapError, bind, Except.bind, Except.ok.injEq, exists_eq_left']
    cases arrayOf? elementType size <;> simp

/-- An array is blamed as a whole. -/
theorem eq_of_readArray_eq_error {error : TypeError} (h : readArray raw size element = .error error) :
    error = ⟨String.ofList raw⟩ := by
  unfold readArray at h
  cases element with
  | error inner => exact (Except.error.inj h).symm
  | ok elementType =>
    simp only [Except.mapError, bind, Except.bind] at h
    cases harray : arrayOf? elementType size with
    | none =>
      rw [harray] at h
      exact (Except.error.inj h).symm
    | some result =>
      rw [harray] at h
      cases h

/-- A text without a closing bracket at its end is read as a whole. -/
theorem readArrays_of_not_closed (h : (Text.trimChars raw).getLast? ≠ some ']') :
    readArrays base raw = base raw := by
  rw [readArrays]
  split
  · rename_i body hbody
    rw [← List.head?_reverse, hbody] at h
    exact absurd rfl h
  · rfl

/-- A text with brackets at its end is an array of what stands before the last opening bracket. -/
theorem readArrays_of_brackets {element : List Char} (hsize : '[' ∉ size)
    (h : Text.trimChars raw = element ++ '[' :: (size ++ [']'])) :
    readArrays base raw = readArray raw size (readArrays base element) := by
  have hreverse : (Text.trimChars raw).reverse =
      ']' :: (size.reverse ++ '[' :: element.reverse) := by
    simp [h]
  -- backwards, the first opening bracket is the one in front of the size
  have hnone : ∀ c ∈ size.reverse, (c != '[') = true := by
    intro c hc
    rw [bne_iff_ne]
    rintro rfl
    exact hsize (List.mem_reverse.1 hc)
  have hbefore : (size.reverse ++ '[' :: element.reverse).dropWhile (· != '[') =
      '[' :: element.reverse := by
    rw [List.dropWhile_append_of_pos hnone]
    simp
  have hbehind : (size.reverse ++ '[' :: element.reverse).takeWhile (· != '[') = size.reverse := by
    rw [List.takeWhile_append_of_pos hnone]
    simp
  rw [readArrays]
  split
  · rename_i body hbody
    rw [hreverse] at hbody
    obtain rfl := (List.cons.inj hbody).2
    split
    · rename_i front hfront
      rw [hbefore] at hfront
      obtain rfl := (List.cons.inj hfront).2
      rw [hbehind, List.reverse_reverse, List.reverse_reverse]
    · rename_i hfront
      rw [hbefore] at hfront
      cases hfront
  · rename_i hopen
    exact absurd hreverse (hopen _)

/-- A text with a closing bracket at its end is blamed as a whole, however deep inside it the fault
is. -/
theorem eq_of_readArrays_eq_error {error : TypeError} (h : readArrays base raw = .error error)
    (hclosed : (Text.trimChars raw).getLast? = some ']') : error = ⟨String.ofList raw⟩ := by
  rw [readArrays] at h
  split at h
  · split at h
    · exact eq_of_readArray_eq_error h
    · exact (Except.error.inj h).symm
  · rename_i hopen
    rw [← List.head?_reverse] at hclosed
    obtain ⟨body, hbody⟩ := List.head?_eq_some_iff.1 hclosed
    exact absurd hbody (hopen body)

/-- What is read from a text with a closing bracket at its end is an array of what is read before
an opening bracket. -/
theorem brackets_of_readArrays {type : ParamType} (h : readArrays base raw = .ok type)
    (hclosed : (Text.trimChars raw).getLast? = some ']') :
    ∃ element size elementType, Text.trimChars raw = element ++ '[' :: (size ++ [']']) ∧
      element.length < raw.length ∧ readArrays base element = .ok elementType ∧
      arrayOf? elementType size = some type := by
  rw [readArrays] at h
  split at h
  · rename_i body hbody
    split at h
    · rename_i c front hfront
      obtain ⟨elementType, helement, harray⟩ := readArray_eq_ok_iff.1 h
      have hc : c = '[' := by
        have hhead := List.head?_dropWhile_not (· != '[') body
        rw [hfront] at hhead
        simpa using hhead
      subst hc
      have hsplit := List.takeWhile_append_dropWhile (p := (· != '[')) (l := body)
      rw [hfront] at hsplit
      have htext : Text.trimChars raw =
          front.reverse ++ '[' :: ((body.takeWhile (· != '[')).reverse ++ [']']) := by
        rw [← List.reverse_reverse (Text.trimChars raw), hbody, List.reverse_cons]
        nth_rewrite 1 [← hsplit]
        simp
      refine ⟨_, _, elementType, htext, ?_, helement, harray⟩
      have hlength := length_trimChars_le raw
      rw [htext] at hlength
      simp only [List.length_append, List.length_cons] at hlength
      omega
    · cases h
  · rename_i hopen
    rw [← List.head?_reverse] at hclosed
    obtain ⟨body, hbody⟩ := List.head?_eq_some_iff.1 hclosed
    exact absurd hbody (hopen body)

end Brackets

/-! ## The reader and the grammar -/

/-- The texts of elementary names consist of letters and digits. -/
theorem all_isNameChar_of_elementaryName {name : String} {type : ParamType}
    (h : ElementaryName name type) : name.toList.all Naming.isNameChar := by
  cases h with
  | address | bool | string | bytes | byte | plainUint | plainInt => decide +kernel
  | uint | int | fixedBytes =>
    rw [String.toList_append, List.all_append, Naming.all_isNameChar_toString]
    rfl

/-- A text of characters of names does not end with a bracket. -/
theorem getLast?_ne_of_all_isNameChar {cs : List Char} (h : cs.all Naming.isNameChar) :
    cs.getLast? ≠ some ']' := by
  intro hlast
  have hname := List.all_eq_true.1 h _ (List.mem_of_getLast? hlast)
  exact absurd hname (by decide)

/-- A text that reads as an elementary name is read as its type, whatever the components are. -/
theorem ofText_of_elementaryName {raw : String} {type : ParamType}
    {components : Except TypeError (List (String × ParamType))}
    (h : ElementaryName (Text.trim raw) type) :
    ofText raw components = .ok type := by
  have hname := elementary?_of_elementaryName h
  have hchars := all_isNameChar_of_elementaryName h
  rw [Text.toList_trim] at hname hchars
  have hword : Text.trimChars raw.toList ≠ "tuple".toList := by
    intro htuple
    rw [htuple] at hname
    unfold elementary? at hname
    simp at hname
  rw [ofText, readArrays_of_not_closed (getLast?_ne_of_all_isNameChar hchars)]
  unfold readInnermost
  rw [if_neg hword, hname]

/-- A text that reads `tuple` is read as the tuple of the components, one at least. -/
theorem ofText_of_tuple {raw : String} {fields : List (String × ParamType)}
    (h : Text.trim raw = "tuple") (hne : fields ≠ []) :
    ofText raw (.ok fields) = .ok (.tuple fields) := by
  have hword : Text.trimChars raw.toList = "tuple".toList := by rw [← Text.toList_trim, h]
  have hopen : (Text.trimChars raw.toList).getLast? ≠ some ']' := by
    rw [hword]
    decide
  rw [ofText, readArrays_of_not_closed hopen]
  unfold readInnermost
  rw [if_pos hword]
  cases fields with
  | nil => exact absurd rfl hne
  | cons field rest => rfl

/-- The type of a component is that of the parameter. -/
theorem ofParameter_eq_paramType (p : Parameter) : ofParameter p = p.paramType := by
  cases p
  rw [ofParameter]
  rfl

mutual

/-- The type that a text stands for is read in it. -/
theorem parse_of_denotes {raw : String} {components : List Parameter} {type : ParamType} :
    Denotes raw components type → parse raw components = .ok type
  | .elementary hname => ofText_of_elementaryName hname
  | @Denotes.tuple _ _ fields hword hne hfields => by
    have hcomponents := ofComponents_of_denoteFields hfields
    have hfieldsNe : fields ≠ [] := by
      rintro rfl
      cases hfields
      exact hne rfl
    rw [parse, hcomponents]
    exact ofText_of_tuple hword hfieldsNe
  | @Denotes.array _ element _ _ htext helement => by
    have hread := parse_of_denotes helement
    have hbrackets : Text.trimChars raw.toList = element.toList ++ '[' :: ([] ++ [']']) := by
      rw [← Text.toList_trim, htext, String.toList_append]
      rfl
    rw [parse, ofText, readArrays_of_brackets List.not_mem_nil hbrackets]
    exact readArray_eq_ok_iff.2 ⟨_, hread, rfl⟩
  | @Denotes.fixedArray _ element _ elementType length htext hpos hlimit helement => by
    have hread := parse_of_denotes helement
    have hbrackets : Text.trimChars raw.toList =
        element.toList ++ '[' :: ((toString length).toList ++ [']']) := by
      rw [← Text.toList_trim, htext, String.toList_append, String.toList_append,
        String.toList_append, List.append_assoc, List.append_assoc]
      rfl
    have hnone : '[' ∉ (toString length).toList := by
      intro hmem
      exact absurd (List.all_eq_true.1 (Text.all_isDigit_toString length) _ hmem) (by decide)
    have harray : arrayOf? elementType (toString length).toList =
        some (.fixedArray elementType length) :=
      arrayOf?_eq_some_iff.2 (Or.inr ⟨length, rfl, hpos, hlimit, rfl⟩)
    rw [parse, ofText, readArrays_of_brackets hnone hbrackets]
    exact readArray_eq_ok_iff.2 ⟨_, hread, harray⟩

/-- The fields that components stand for are read in them. -/
theorem ofComponents_of_denoteFields {components : List Parameter}
    {fields : List (String × ParamType)} :
    DenoteFields components fields → ofComponents components = .ok fields
  | .nil => rfl
  | @DenoteFields.cons p _ _ _ htype hrest => by
    have hparameter : p.paramType = .ok _ := parse_of_denotes htype
    rw [ofComponents, ofParameter_eq_paramType, hparameter, ofComponents_of_denoteFields hrest]
    rfl

end

/-- What is read in a text without array suffixes is what the text stands for. -/
theorem denotes_of_readInnermost {raw : String} {components : List Parameter} {type : ParamType}
    (hfields : ∀ fields, ofComponents components = .ok fields → DenoteFields components fields)
    (h : readInnermost (ofComponents components) raw.toList = .ok type) :
    Denotes raw components type := by
  unfold readInnermost at h
  dsimp only at h
  split at h
  · rename_i hword
    have htuple : Text.trim raw = "tuple" := by
      rw [Text.trim, hword, String.ofList_toList]
    split at h
    · cases h
    · rename_i fields hne hcomponents
      obtain rfl := Except.ok.inj h
      have hdenote := hfields fields hcomponents
      refine .tuple htuple ?_ hdenote
      rintro rfl
      cases hdenote
      exact hne rfl
    · cases h
  · split at h
    · rename_i found hname
      obtain rfl := Except.ok.inj h
      exact .elementary (elementaryName_of_elementary? hname)
    · cases h

/-- What is read in a text is what the text stands for, if this is so of the components. -/
theorem denotes_of_ofText {raw : String} {components : List Parameter} {type : ParamType}
    (hfields : ∀ fields, ofComponents components = .ok fields → DenoteFields components fields)
    (h : ofText raw (ofComponents components) = .ok type) : Denotes raw components type := by
  rw [ofText] at h
  -- along the text: the element of an array is shorter than the array
  induction hn : raw.toList.length using Nat.strongRecOn generalizing raw type with
  | ind n ih =>
    by_cases hclosed : (Text.trimChars raw.toList).getLast? = some ']'
    · obtain ⟨element, size, elementType, htext, hlength, helement, harray⟩ :=
        brackets_of_readArrays h hclosed
      rw [← String.toList_ofList (l := element)] at helement
      have hdenote := ih element.length (by omega) helement (by rw [String.toList_ofList])
      have htrim : Text.trim raw = String.ofList element ++ "[" ++ String.ofList size ++ "]" := by
        rw [← String.toList_inj, Text.toList_trim, htext]
        simp
      rcases arrayOf?_eq_some_iff.1 harray with ⟨rfl, rfl⟩ | ⟨length, rfl, hpos, hlimit, rfl⟩
      · refine .array ?_ hdenote
        rw [htrim]
        simp [← String.toList_inj]
      · rw [String.ofList_toList] at htrim
        exact .fixedArray htrim hpos hlimit hdenote
    · rw [readArrays_of_not_closed hclosed] at h
      exact denotes_of_readInnermost hfields h

mutual

/-- The type that is read for a parameter is what its text stands for. -/
theorem denotes_of_ofParameter : ∀ (p : Parameter) {type : ParamType},
    ofParameter p = .ok type → Denotes p.type p.components type
  | ⟨_, _, components, _⟩, _, h =>
    denotes_of_ofText (fun _ hfields => denoteFields_of_ofComponents components hfields) h

/-- The fields that are read for components are what these stand for. -/
theorem denoteFields_of_ofComponents : ∀ (components : List Parameter)
    {fields : List (String × ParamType)},
    ofComponents components = .ok fields → DenoteFields components fields
  | [], _, h => by
    obtain rfl := Except.ok.inj h
    exact .nil
  | p :: rest, _, h => by
    obtain ⟨type, htype, h⟩ := Traversal.bind_eq_ok_iff.1 h
    obtain ⟨fields, hfields, h⟩ := Traversal.bind_eq_ok_iff.1 h
    obtain rfl := Except.ok.inj h
    exact .cons (denotes_of_ofParameter p htype) (denoteFields_of_ofComponents rest hfields)

end

/-- A text is read as a type exactly if it stands for that type. -/
theorem parse_eq_ok_iff {raw : String} {components : List Parameter} {type : ParamType} :
    parse raw components = .ok type ↔ Denotes raw components type := by
  constructor
  · exact denotes_of_ofText fun _ => denoteFields_of_ofComponents components
  · exact parse_of_denotes

/-- The reader of types accepts exactly the texts of the grammar, each with its type, and every
other text is an error. -/
theorem parse_accepts_grammar (raw : String) (components : List Parameter) :
    (∀ type, parse raw components = .ok type ↔ Denotes raw components type) ∧
      ((∃ error, parse raw components = .error error) ↔
        ¬ ∃ type, Denotes raw components type) := by
  refine ⟨fun type => parse_eq_ok_iff, ?_⟩
  simp only [← parse_eq_ok_iff]
  cases parse raw components with
  | ok type => simp
  | error error => simp

end ParamType

end AbiBindings.Abi
