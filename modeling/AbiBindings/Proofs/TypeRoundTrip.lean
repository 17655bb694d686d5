import AbiBindings.Proofs.TypeGrammar

/-!
# Types are written and read back

A type is written as a text, in which the innermost tuple is the word `tuple`, and the components of
that tuple beside it, each with a text and components of its own. Reading is the way back for every
type that a parameter can have, and no other type is ever read (`type_round_trip`). A type without
tuples is its canonical text, which stands alone.
-/

set_option autoImplicit false

namespace AbiBindings.Abi.ParamType

/-- Whether a parameter can have the type: sizes, widths and lengths are in their bounds and no
tuple is empty, at any depth. -/
inductive WellFormed : ParamType → Prop
  | address : WellFormed .address
  | bool : WellFormed .bool
  | string : WellFormed .string
  | bytes : WellFormed .bytes
  | fixedBytes {size : Nat} : 1 ≤ size → size ≤ 32 → WellFormed (.fixedBytes size)
  | uint {bits : Nat} : IsWidth bits → WellFormed (.uint bits)
  | int {bits : Nat} : IsWidth bits → WellFormed (.int bits)
  | array {element : ParamType} : WellFormed element → WellFormed (.array element)
  | fixedArray {element : ParamType} {length : Nat} : 0 < length → length < lengthLimit →
    WellFormed element → WellFormed (.fixedArray element length)
  | tuple {fields : List (String × ParamType)} : fields ≠ [] → (∀ c ∈ fields, WellFormed c.2) →
    WellFormed (.tuple fields)

/-- The text of a type beside its components: the canonical text with a word for the innermost
tuple. -/
def rawText : ParamType → String
  | array element => element.rawText ++ "[]"
  | fixedArray element length => element.rawText ++ "[" ++ toString length ++ "]"
  | tuple _ => "tuple"
  | type => type.canonical

mutual

/-- The components of the innermost tuple of a type, none if there is no tuple. -/
def rawComponents : ParamType → List Parameter
  | array element => element.rawComponents
  | fixedArray element _ => element.rawComponents
  | tuple fields => fieldParameters fields
  | _ => []

/-- A parameter for each field of a tuple. -/
def fieldParameters : List (String × ParamType) → List Parameter
  | [] => []
  | (name, type) :: rest =>
    ⟨name, type.rawText, type.rawComponents, false⟩ :: fieldParameters rest

end

/-- Whether a type is made without tuples. -/
def isTupleFree : ParamType → Bool
  | array element => element.isTupleFree
  | fixedArray element _ => element.isTupleFree
  | tuple _ => false
  | _ => true

/-! ## Texts without blanks -/

/-- A character of names is no blank. -/
theorem not_isBlank_of_isNameChar {c : Char} (h : Naming.isNameChar c) : ¬ Text.isBlank c := by
  have hbounds := Naming.toNat_bounds_of_isNameChar h
  simp only [Text.isBlank, Bool.or_eq_true, Bool.and_eq_true, decide_eq_true_eq, beq_iff_eq]
  omega

/-- Characters of names are no blanks. -/
theorem all_not_isBlank {cs : List Char} (h : cs.all Naming.isNameChar) :
    cs.all (!Text.isBlank ·) := by
  rw [List.all_eq_true] at h ⊢
  intro c hc
  have hblank := not_isBlank_of_isNameChar (h c hc)
  simpa using hblank

/-- There are no blanks in the text of a type. -/
theorem all_not_isBlank_rawText (type : ParamType) :
    type.rawText.toList.all (!Text.isBlank ·) := by
  induction type using shapeInduction with
  | elementary type h =>
    have htext : type.rawText = Naming.typeSuffix type := by
      cases type <;> first | rfl | simp [isElementary] at h
    rw [htext]
    exact all_not_isBlank (Naming.all_isNameChar_typeSuffix type)
  | array element ih =>
    rw [rawText, String.toList_append, List.all_append, ih]
    rfl
  | fixedArray element length ih =>
    have hlength := all_not_isBlank (Naming.all_isNameChar_toString length)
    simp only [rawText, String.toList_append, List.all_append, ih, hlength]
    rfl
  | tuple components ih =>
    rw [rawText]
    decide

/-- The text of a type is not trimmed. -/
theorem trim_rawText (type : ParamType) : Text.trim type.rawText = type.rawText :=
  Text.trim_eq_self (all_not_isBlank_rawText type)

/-! ## From types to texts and back -/

/-- The parameters for fields denote them, if each of them does. -/
theorem denoteFields_fieldParameters {fields : List (String × ParamType)}
    (h : ∀ c ∈ fields, Denotes c.2.rawText c.2.rawComponents c.2) :
    DenoteFields (fieldParameters fields) fields := by
  induction fields with
  | nil => exact .nil
  | cons c rest ih =>
    obtain ⟨hc, hrest⟩ := List.forall_mem_cons.1 h
    exact .cons hc (ih hrest)

/-- A type that a parameter can have is what its text stands for, given its components. -/
theorem denotes_rawText {type : ParamType} (h : WellFormed type) :
    Denotes type.rawText type.rawComponents type := by
  have helementary {name : String} {type : ParamType} {components : List Parameter}
      (htrim : Text.trim name = name) (hname : ElementaryName name type) :
      Denotes name components type := .elementary (by rwa [htrim])
  induction h with
  | address => exact helementary (trim_rawText .address) .address
  | bool => exact helementary (trim_rawText .bool) .bool
  | string => exact helementary (trim_rawText .string) .string
  | bytes => exact helementary (trim_rawText .bytes) .bytes
  | @fixedBytes size hlow hhigh =>
    exact helementary (trim_rawText (.fixedBytes size)) (.fixedBytes hlow hhigh)
  | @uint bits hbits => exact helementary (trim_rawText (.uint bits)) (.uint hbits)
  | @int bits hbits => exact helementary (trim_rawText (.int bits)) (.int hbits)
  | @array element _ ih => exact .array (trim_rawText (.array element)) ih
  | @fixedArray element length hpos hlimit _ ih =>
    exact .fixedArray (trim_rawText (.fixedArray element length)) hpos hlimit ih
  | @tuple fields hne _ ih =>
    refine .tuple (trim_rawText (.tuple fields)) ?_ (denoteFields_fieldParameters ih)
    intro hnil
    cases fields with
    | nil => exact hne rfl
    | cons c rest => cases hnil

/-- A type with a name is well formed. -/
theorem wellFormed_of_elementaryName {name : String} {type : ParamType}
    (h : ElementaryName name type) : WellFormed type := by
  cases h with
  | address => exact .address
  | bool => exact .bool
  | string => exact .string
  | bytes => exact .bytes
  | byte => exact .fixedBytes (by decide) (by decide)
  | plainUint => exact .uint (by decide)
  | plainInt => exact .int (by decide)
  | uint hbits => exact .uint hbits
  | int hbits => exact .int hbits
  | fixedBytes hlow hhigh => exact .fixedBytes hlow hhigh

mutual

/-- What a text stands for is a type that a parameter can have. -/
theorem wellFormed_of_denotes {raw : String} {components : List Parameter} {type : ParamType} :
    Denotes raw components type → WellFormed type
  | .elementary hname => wellFormed_of_elementaryName hname
  | .tuple _ hne hfields => by
    refine .tuple ?_ (wellFormed_of_denoteFields hfields)
    rintro rfl
    cases hfields
    exact hne rfl
  | .array _ helement => .array (wellFormed_of_denotes helement)
  | .fixedArray _ hpos hlimit helement =>
    .fixedArray hpos hlimit (wellFormed_of_denotes helement)

/-- Fields that are denoted are well formed. -/
theorem wellFormed_of_denoteFields {components : List Parameter}
    {fields : List (String × ParamType)} :
    DenoteFields components fields → ∀ c ∈ fields, WellFormed c.2
  | .nil => by simp
  | .cons htype hrest =>
    List.forall_mem_cons.2 ⟨wellFormed_of_denotes htype, wellFormed_of_denoteFields hrest⟩

end

/-! ## Texts that stand alone -/

/-- A type without tuples is written as its canonical text, with no components beside it. -/
theorem rawText_of_isTupleFree {type : ParamType} (h : type.isTupleFree) :
    type.rawText = type.canonical ∧ type.rawComponents = [] := by
  induction type using shapeInduction with
  | elementary type helementary =>
    cases type <;> first | exact ⟨rfl, rfl⟩ | simp [isElementary] at helementary
  | array element ih =>
    obtain ⟨htext, hcomponents⟩ := ih h
    exact ⟨by rw [rawText, canonical, htext], hcomponents⟩
  | fixedArray element length ih =>
    obtain ⟨htext, hcomponents⟩ := ih h
    exact ⟨by rw [rawText, canonical, htext], hcomponents⟩
  | tuple components ih => cases h

/-- A type with a name has no tuples in it. -/
theorem isTupleFree_of_elementaryName {name : String} {type : ParamType}
    (h : ElementaryName name type) : type.isTupleFree := by
  cases h <;> rfl

/-- Without components no text stands for a type with tuples. -/
theorem isTupleFree_of_denotes {raw : String} {type : ParamType} :
    Denotes raw [] type → type.isTupleFree
  | .elementary hname => isTupleFree_of_elementaryName hname
  | .tuple _ hne _ => absurd rfl hne
  | .array _ helement => by
    rw [isTupleFree]
    exact isTupleFree_of_denotes helement
  | .fixedArray _ _ _ helement => by
    rw [isTupleFree]
    exact isTupleFree_of_denotes helement

/-- A trimmed text that stands for a type without components is read alone. -/
theorem parseAlone_of_denotes {raw : String} {type : ParamType} (h : Denotes raw [] type)
    (htrim : Text.trim raw = raw) : parseAlone raw = .ok type := by
  have hparse := parse_of_denotes h
  unfold parseAlone
  split
  · exact hparse
  · rename_i hopen
    rw [parse, ofText] at hparse
    have hchars : Text.trimChars raw.toList = raw.toList := by rw [← Text.toList_trim, htrim]
    rw [readArrays_of_not_closed (by rwa [hchars])] at hparse
    unfold readInnermost at hparse
    rw [hchars, String.ofList_toList] at hparse
    split at hparse
    · cases hparse
    · exact hparse

/-- What is read in a text that stands alone is a type that a parameter can have, without tuples. -/
theorem wellFormed_of_parseAlone {raw : String} {type : ParamType} (h : parseAlone raw = .ok type) :
    WellFormed type ∧ type.isTupleFree := by
  unfold parseAlone at h
  split at h
  · have hdenotes := parse_eq_ok_iff.1 h
    exact ⟨wellFormed_of_denotes hdenotes, isTupleFree_of_denotes hdenotes⟩
  · split at h
    · rename_i found hname
      obtain rfl := Except.ok.inj h
      have helementary := elementaryName_of_elementary? hname
      exact ⟨wellFormed_of_elementaryName helementary, isTupleFree_of_elementaryName helementary⟩
    · cases h

/-- The canonical text of a type without tuples is read as that type. -/
theorem parseAlone_canonical {type : ParamType} (h : WellFormed type) (hfree : type.isTupleFree) :
    parseAlone type.canonical = .ok type := by
  obtain ⟨htext, hcomponents⟩ := rawText_of_isTupleFree hfree
  have hdenotes := denotes_rawText h
  rw [hcomponents] at hdenotes
  rw [← htext]
  exact parseAlone_of_denotes hdenotes (trim_rawText type)

/-- Writing a type and reading it back are inverse. Every type that a parameter can have is read in
its text with its components, and in its canonical text alone if it has no tuples. Only such types
are ever read, so a text without tuples can be replaced by the canonical text of its type. -/
theorem type_round_trip (type : ParamType) :
    (WellFormed type → parse type.rawText type.rawComponents = .ok type ∧
      (type.isTupleFree → parseAlone type.canonical = .ok type)) ∧
    (∀ raw components, parse raw components = .ok type → WellFormed type ∧
      (type.isTupleFree →
        parse type.canonical [] = .ok type ∧ parseAlone type.canonical = .ok type)) ∧
    ∀ raw, parseAlone raw = .ok type → WellFormed type ∧
      parse type.canonical [] = .ok type ∧ parseAlone type.canonical = .ok type := by
  have hcanonical (h : WellFormed type) (hfree : type.isTupleFree) :
      parse type.canonical [] = .ok type ∧ parseAlone type.canonical = .ok type := by
    have hparse := parse_of_denotes (denotes_rawText h)
    obtain ⟨htext, hcomponents⟩ := rawText_of_isTupleFree hfree
    rw [htext, hcomponents] at hparse
    exact ⟨hparse, parseAlone_canonical h hfree⟩
  refine ⟨?_, ?_, ?_⟩
  · intro h
    exact ⟨parse_of_denotes (denotes_rawText h), fun hfree => (hcanonical h hfree).2⟩
  · intro raw components hparse
    have h := wellFormed_of_denotes (parse_eq_ok_iff.1 hparse)
    exact ⟨h, hcanonical h⟩
  · intro raw hparse
    obtain ⟨h, hfree⟩ := wellFormed_of_parseAlone hparse
    exact ⟨h, hcanonical h hfree⟩

/-- Two tuples, each with an array of tuples in it. -/
def pairType : ParamType :=
  .fixedArray (.tuple [("amount", .uint 256), ("inner", .array (.tuple [("flag", .bool)]))]) 2

/-- The pair is read in its text with its components, and it is a type that a parameter can have
because it is read. -/
theorem type_round_trip_pair : WellFormed pairType ∧ parse "tuple[2]"
    [⟨"amount", "uint256", [], false⟩, ⟨"inner", "tuple[]", [⟨"flag", "bool", [], false⟩], false⟩] =
      .ok pairType := by
  have hinner : WellFormed (.array (.tuple [("flag", .bool)])) :=
    .array (.tuple (by simp) (by simp [WellFormed.bool]))
  have hamount : WellFormed (.uint 256) := .uint (by decide)
  have hpair : WellFormed pairType := by
    refine .fixedArray (by decide) (by decide) (.tuple (by simp) ?_)
    simp [hinner, hamount]
  obtain ⟨hwritten, -, -⟩ := type_round_trip pairType
  exact ⟨hpair, (hwritten hpair).1⟩

end AbiBindings.Abi.ParamType
