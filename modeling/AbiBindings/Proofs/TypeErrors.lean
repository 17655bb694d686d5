import AbiBindings.Proofs.Generation
import AbiBindings.Proofs.TypeReaders

/-!
# Which text a type error names

`Blamed` leads from a parameter to the one that is to blame if it has no type: down through the
components of tuples, each time to the first that has no type, and no further than to an array. The
error names the text of that parameter as it stands, and the error of a generation adds where in the
interface the parameter belongs (`type_errors_name_culprits`).
-/

set_option autoImplicit false

namespace AbiBindings.Abi

open Traversal ParamType

/-- Whether a parameter has a type. -/
def Parameter.IsTyped (p : Parameter) : Prop :=
  ∃ type, p.paramType = .ok type

/-- The way from a parameter to the one that is to blame if it has no type. -/
inductive Blamed : Parameter → Parameter → Prop
  | self {p : Parameter} : ¬ (Text.trim p.type = "tuple" ∧ p.components ≠ []) → Blamed p p
  | component {p q culprit : Parameter} {before after : List Parameter} :
    Text.trim p.type = "tuple" → p.components = before ++ q :: after →
      (∀ r ∈ before, r.IsTyped) → ¬ q.IsTyped → Blamed q culprit → Blamed p culprit

/-! ## One parameter -/

/-- A parameter whose type fails to be read has none. -/
theorem not_isTyped_of_error {p : Parameter} {error : TypeError} (h : p.paramType = .error error) :
    ¬ p.IsTyped := by
  rintro ⟨type, htype⟩
  simp [h] at htype

/-- A component as a field of the tuple. -/
def Parameter.field (p : Parameter) : Except TypeError (String × ParamType) :=
  p.paramType.map fun type => (p.name, type)

/-- A parameter makes a field exactly if it has a type. -/
theorem Parameter.exists_field_iff (p : Parameter) : (∃ field, p.field = .ok field) ↔ p.IsTyped := by
  unfold Parameter.field Parameter.IsTyped
  cases p.paramType <;> simp [Except.map]

/-- A field fails with the error of its type. -/
theorem Parameter.field_eq_error_iff {p : Parameter} {error : TypeError} :
    p.field = .error error ↔ p.paramType = .error error := by
  unfold Parameter.field
  cases p.paramType <;> simp [Except.map]

/-- The fields of components are made one by one. -/
theorem ofComponents_eq_mapM (components : List Parameter) :
    ofComponents components = components.mapM Parameter.field := by
  induction components with
  | nil => rfl
  | cons p rest ih =>
    rw [List.mapM_cons, ofComponents, ih, ofParameter_eq_paramType, Parameter.field]
    cases p.paramType <;> rfl

/-- Components fail as the first of them that has no type. -/
theorem ofComponents_eq_error_iff {components : List Parameter} {error : TypeError} :
    ofComponents components = .error error ↔ ∃ before q after, components = before ++ q :: after ∧
      (∀ r ∈ before, r.IsTyped) ∧ q.paramType = .error error := by
  rw [ofComponents_eq_mapM, mapM_eq_error_iff]
  simp only [Parameter.exists_field_iff, Parameter.field_eq_error_iff]

section Tuple

variable {raw : String} (hword : Text.trim raw = "tuple")

include hword

/-- A text without brackets is an innermost element. -/
theorem ofText_of_word (components : Except TypeError (List (String × ParamType))) :
    ofText raw components = readInnermost components raw.toList := by
  have hchars : Text.trimChars raw.toList = "tuple".toList := by rw [← Text.toList_trim, hword]
  have hopen : (Text.trimChars raw.toList).getLast? ≠ some ']' := by
    rw [hchars]
    decide
  exact readArrays_of_not_closed hopen

/-- A tuple fails as its components do. -/
theorem ofText_eq_error (error : TypeError) : ofText raw (.error error) = .error error := by
  have hchars : Text.trimChars raw.toList = "tuple".toList := by rw [← Text.toList_trim, hword]
  rw [ofText_of_word hword, readInnermost]
  exact if_pos hchars

/-- A tuple without components is blamed itself. -/
theorem ofText_nil : ofText raw (.ok []) = .error ⟨raw⟩ := by
  have hchars : Text.trimChars raw.toList = "tuple".toList := by rw [← Text.toList_trim, hword]
  rw [ofText_of_word hword, readInnermost, if_pos hchars, String.ofList_toList]

end Tuple

/-- A text that is no tuple with components is blamed itself. -/
theorem paramType_eq_error {p : Parameter} {error : TypeError}
    (hself : ¬ (Text.trim p.type = "tuple" ∧ p.components ≠ []))
    (h : p.paramType = .error error) : error = ⟨p.type⟩ := by
  rw [Parameter.paramType, parse] at h
  by_cases hword : Text.trim p.type = "tuple"
  · have hnone : p.components = [] := by
      by_contra hne
      exact hself ⟨hword, hne⟩
    rw [hnone, ofComponents, ofText_nil hword] at h
    exact (Except.error.inj h).symm
  · exact eq_of_ofText_eq_error hword h

/-- A tuple with components has a type if they have. -/
theorem ofComponents_of_paramType_eq_error {p : Parameter} {error : TypeError}
    (hword : Text.trim p.type = "tuple") (hne : p.components ≠ [])
    (h : p.paramType = .error error) : ofComponents p.components = .error error := by
  rw [Parameter.paramType, parse] at h
  cases hcomponents : ofComponents p.components with
  | ok fields =>
    have hfields : fields ≠ [] := by
      have hdenote := denoteFields_of_ofComponents p.components hcomponents
      rintro rfl
      generalize p.components = components at hne hdenote
      cases hdenote
      exact hne rfl
    rw [hcomponents, ofText_of_tuple hword hfields] at h
    cases h
  | error e =>
    rw [hcomponents, ofText_eq_error hword] at h
    exact congrArg Except.error (Except.error.inj h)

/-- The error of a parameter without a type is that of the parameter to blame, and names its text.
-/
theorem exists_blamed (p : Parameter) {error : TypeError} (h : p.paramType = .error error) :
    ∃ culprit, Blamed p culprit ∧ culprit.paramType = .error error ∧ error = ⟨culprit.type⟩ := by
  by_cases hself : ¬ (Text.trim p.type = "tuple" ∧ p.components ≠ [])
  · exact ⟨p, .self hself, h, paramType_eq_error hself h⟩
  · obtain ⟨hword, hne⟩ := not_not.1 hself
    obtain ⟨before, q, after, hcomponents, hbefore, hq⟩ :=
      ofComponents_eq_error_iff.1 (ofComponents_of_paramType_eq_error hword hne h)
    have hsmaller : sizeOf q < sizeOf p := by
      have hmem : q ∈ p.components := by simp [hcomponents]
      have hsize := List.sizeOf_lt_of_mem hmem
      cases p
      simp only [Parameter.mk.sizeOf_spec] at hsize ⊢
      omega
    obtain ⟨culprit, hblamed, hculprit⟩ := exists_blamed q hq
    exact ⟨culprit, .component hword hcomponents hbefore (not_isTyped_of_error hq) hblamed, hculprit⟩
termination_by sizeOf p

open Classical in
/-- The first component without a type is found. -/
theorem find?_eq_of_first {components before after : List Parameter} {q : Parameter}
    (hcomponents : components = before ++ q :: after) (hbefore : ∀ r ∈ before, r.IsTyped)
    (hq : ¬ q.IsTyped) : components.find? (fun r => ¬ r.IsTyped) = some q := by
  rw [List.find?_eq_some_iff_append]
  exact ⟨by simpa using hq, before, after, hcomponents, by simpa using hbefore⟩

/-- There is one parameter to blame. -/
theorem Blamed.unique {p culprit other : Parameter} (h : Blamed p culprit) (h' : Blamed p other) :
    other = culprit := by
  induction h with
  | self hself =>
    cases h' with
    | self => rfl
    | component hword hcomponents => exact absurd ⟨hword, by simp [hcomponents]⟩ hself
  | @component p q culprit before after hword hcomponents hbefore hq _ ih =>
    cases h' with
    | self hself => exact absurd ⟨hword, by simp [hcomponents]⟩ hself
    | @component _ q' _ before' after' _ hcomponents' hbefore' hq' hblamed' =>
      have hsame := find?_eq_of_first hcomponents' hbefore' hq'
      rw [find?_eq_of_first hcomponents hbefore hq] at hsame
      obtain rfl := Option.some.inj hsame
      exact ih hblamed'

end AbiBindings.Abi

namespace AbiBindings.Bindings

open Abi Traversal

variable {settings : Settings} {name : String} {abi : Interface} {code : Bytecode}

/-! ## Generation -/

/-- The parameters of an interface whose types are read, each with the kind and the name of the
entry that it belongs to. -/
inductive Belongs (abi : Interface) : Location → Parameter → Prop
  | constructorInput {e : Entry} {p : Parameter} :
    abi.constructor? = some e → p ∈ e.inputs → Belongs abi .constructor p
  | functionInput {e : Entry} {p : Parameter} :
    e ∈ abi.functions → p ∈ e.inputs → Belongs abi (.function e.title) p
  | functionOutput {e : Entry} {p : Parameter} :
    e ∈ abi.functions → p ∈ e.outputs → Belongs abi (.function e.title) p
  | eventInput {e : Entry} {p : Parameter} :
    e ∈ abi.events → p ∈ e.inputs → Belongs abi (.event e.title) p

/-- The inputs of the constructor belong to an interface. -/
theorem belongs_constructor {p : Parameter} (h : p ∈ constructorInputs abi) :
    Belongs abi .constructor p := by
  unfold constructorInputs at h
  split at h
  · exact .constructorInput ‹_› h
  · cases h

/-- Faults of the settings are no faults of a type. -/
theorem setup_ne_unsupportedType (raw : String) (location : Location) :
    settings.setup name ≠ .error (.unsupportedType raw location) := by
  have hplain (what text : String) :
      plainIdentifier what text ≠ .error (.unsupportedType raw location) := by
    unfold plainIdentifier
    split
    · split <;> simp
    · simp
  have hvisibility (text : Option String) :
      visibilityTokens text ≠ .error (.unsupportedType raw location) := by
    unfold visibilityTokens
    split
    · simp
    · split <;> simp
  have hmodule (contract : String) (text : Option String) :
      moduleIdentifier contract text ≠ .error (.unsupportedType raw location) := by
    unfold moduleIdentifier
    split
    · exact hplain _ _
    · simp
  have haliases (earlier aliases : Naming.Aliases) :
      checkAliases earlier aliases ≠ .error (.unsupportedType raw location) := by
    induction aliases generalizing earlier with
    | nil => simp [checkAliases]
    | cons a rest ih =>
      rw [checkAliases, Ne, bind_eq_error_iff]
      rintro (h | ⟨word, -, h⟩)
      · exact hplain _ _ h
      · split at h
        · cases h
        · exact ih _ h
  have hderives (texts : List String) :
      deriveTokens texts ≠ .error (.unsupportedType raw location) := by
    induction texts with
    | nil => simp [deriveTokens]
    | cons text rest ih =>
      unfold deriveTokens
      split
      · rw [Ne, bind_eq_error_iff]
        rintro (h | ⟨tokens, -, h⟩)
        · exact ih h
        · cases h
      · simp
      · simp
  unfold Settings.setup
  dsimp only
  split
  · simp
  · simp [bind_eq_error_iff, hplain, hvisibility, hmodule, haliases, hderives]

/-- An error that blames parameters names the text of one, and their location. -/
theorem Blames.exists_untyped {parameters : List Parameter} {location found : Location}
    {x : Except GenerateError ContractBindings} {raw : String} (h : Blames parameters location x)
    (hx : x = .error (.unsupportedType raw found)) :
    found = location ∧ ∃ p ∈ parameters, p.paramType = .error ⟨raw⟩ := by
  obtain ⟨p, hp, error, hblame, hfault⟩ := h
  rw [hx] at hfault
  cases hfault
  exact ⟨rfl, p, hp, hblame⟩

/-- A collision is no error of a type. -/
theorem Collides.ne_unsupportedType {x : Except GenerateError ContractBindings} (h : Collides x)
    (raw : String) (location : Location) : x ≠ .error (.unsupportedType raw location) := by
  obtain ⟨identifier, first, second, rfl⟩ := h
  simp

/-- A type error of a generation is the error of a parameter that belongs where the error says. -/
theorem exists_untyped_of_generate {raw : String} {location : Location}
    (h : generate settings name abi code = .error (.unsupportedType raw location)) :
    ∃ p, Belongs abi location p ∧ p.paramType = .error ⟨raw⟩ := by
  cases hsetup : settings.setup name with
  | error e =>
    rw [generate, hsetup] at h
    obtain rfl := Except.error.inj h
    exact absurd hsetup (setup_ne_unsupportedType raw location)
  | ok setup =>
    by_cases hinputs : Naming.InputsTyped abi.functions
    swap
    · obtain ⟨e, he, hblames⟩ := @generate_functionInputs _ _ _ code _ hsetup hinputs
      obtain ⟨rfl, p, hp, hfault⟩ := hblames.exists_untyped h
      exact ⟨p, .functionInput he hp, hfault⟩
    by_cases hnames : Naming.Distinct (Naming.candidates setup.aliases abi.functions)
    swap
    · exact absurd h ((generate_functionNames hsetup hinputs hnames).ne_unsupportedType _ _)
    by_cases hevents : Naming.InputsTyped abi.events
    swap
    · obtain ⟨e, he, hblames⟩ := @generate_eventInputs _ _ _ code _ hsetup hinputs hnames hevents
      obtain ⟨rfl, p, hp, hfault⟩ := hblames.exists_untyped h
      exact ⟨p, .eventInput he hp, hfault⟩
    by_cases heventNames : Naming.Distinct (Naming.candidates [] abi.events)
    swap
    · exact absurd h
        ((generate_eventNames hsetup hinputs hnames hevents heventNames).ne_unsupportedType _ _)
    by_cases hconstructor : AllTyped (constructorInputs abi)
    swap
    · have hblames := @generate_constructorInputs _ _ _ code _ hsetup hinputs hnames hevents
        heventNames hconstructor
      obtain ⟨rfl, p, hp, hfault⟩ := hblames.exists_untyped h
      exact ⟨p, belongs_constructor hp, hfault⟩
    have hprepared : Prepared setup abi := ⟨hinputs, hnames, hevents, heventNames, hconstructor⟩
    have hnot : ¬ ∀ r ∈ Naming.candidates setup.aliases abi.functions, Writable r := by
      intro hwritable
      obtain ⟨b, hb⟩ := (@exists_generate_iff _ _ _ code _ hsetup).2 ⟨hprepared, hwritable⟩
      simp [hb] at h
    obtain ⟨e, he, hblames⟩ | ⟨given, -, hgiven⟩ :=
      @generate_of_not_writable _ _ _ code _ hsetup hprepared hnot
    · obtain ⟨rfl, p, hp, hfault⟩ := hblames.exists_untyped h
      exact ⟨p, .functionOutput he hp, hfault⟩
    · simp [hgiven] at h

/-- Type errors name the right text. A parameter without a type fails with the text, as it stands,
of the one parameter that is to blame, which has no type either; an array is blamed as a whole. A
type error of a generation names the text of a parameter without a type that is found in the same
way from a parameter of the entry whose kind and name the error tells. -/
theorem type_errors_name_culprits :
    (∀ (p : Parameter) error, p.paramType = .error error → ∃ culprit, Blamed p culprit ∧
      (∀ other, Blamed p other → other = culprit) ∧ ¬ culprit.IsTyped ∧
      error = ⟨culprit.type⟩) ∧
    (∀ (p : Parameter) error, (Text.trim p.type).toList.getLast? = some ']' →
      p.paramType = .error error → error = ⟨p.type⟩) ∧
    ∀ settings name abi code raw location,
      generate settings name abi code = .error (.unsupportedType raw location) →
        ∃ p culprit, Belongs abi location p ∧ ¬ p.IsTyped ∧ Blamed p culprit ∧
          ¬ culprit.IsTyped ∧ raw = culprit.type := by
  refine ⟨?_, ?_, ?_⟩
  · intro p error h
    obtain ⟨culprit, hblamed, hculprit, hraw⟩ := exists_blamed p h
    exact ⟨culprit, hblamed, fun other hother => hblamed.unique hother,
      not_isTyped_of_error hculprit, hraw⟩
  · intro p error hclosed h
    refine paramType_eq_error ?_ h
    rintro ⟨hword, -⟩
    rw [hword] at hclosed
    exact absurd hclosed (by decide)
  · intro settings name abi code raw location h
    obtain ⟨p, hp, hfault⟩ := exists_untyped_of_generate h
    obtain ⟨culprit, hblamed, hculprit, hraw⟩ := exists_blamed p hfault
    exact ⟨p, culprit, hp, not_isTyped_of_error hfault, hblamed, not_isTyped_of_error hculprit,
      congrArg TypeError.raw hraw⟩

/-- A tuple in a tuple, whose components have no types. -/
def orderParameter : Parameter :=
  ⟨"order", "\ttuple", [⟨"owner", "address", [], false⟩,
    ⟨"price", "tuple", [⟨"amount", " uint7 ", [], false⟩, ⟨"unit", "fixed", [], false⟩], false⟩],
    false⟩

/-- An interface with a function that takes the tuple. -/
def orderInterface : Interface :=
  ⟨[⟨.function, some "fill", [orderParameter], [], .nonpayable, false⟩]⟩

/-- The first component without a type of the inner tuple is to blame, by its text with the blanks.
-/
theorem type_errors_name_culprits_order :
    orderParameter.paramType = .error ⟨" uint7 "⟩ ∧
      (∃ culprit, Blamed orderParameter culprit ∧ ¬ culprit.IsTyped ∧ culprit.type = " uint7 ") ∧
      generate {} "Market" orderInterface .notProvided =
        .error (.unsupportedType " uint7 " (.function "fill")) ∧
      ∃ p culprit, Belongs orderInterface (.function "fill") p ∧ Blamed p culprit ∧
        culprit.type = " uint7 " := by
  obtain ⟨hparameter, -, hgenerate⟩ := type_errors_name_culprits
  have horder : orderParameter.paramType = .error ⟨" uint7 "⟩ :=
    error?_eq_some_iff.1 (by decide +kernel)
  have hfill : generate {} "Market" orderInterface .notProvided =
      .error (.unsupportedType " uint7 " (.function "fill")) :=
    error?_eq_some_iff.1 (by decide +kernel)
  obtain ⟨culprit, hblamed, -, huntyped, hraw⟩ := hparameter _ _ horder
  obtain ⟨p, other, hbelongs, -, hother, -, htype⟩ := hgenerate _ _ _ _ _ _ hfill
  exact ⟨horder, ⟨culprit, hblamed, huntyped, (congrArg TypeError.raw hraw).symm⟩, hfill, p, other,
    hbelongs, hother, htype.symm⟩

end AbiBindings.Bindings
