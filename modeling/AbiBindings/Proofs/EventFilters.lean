import AbiBindings.Proofs.Hashes
import AbiBindings.Proofs.IndexedFlags
import AbiBindings.Proofs.Validation

/-!
# Filters of events match topics

The filter builder of an event has a function for each indexed input. Its position is counted among
the indexed inputs, while its name and its type are found by position among all of them, and the
rule that leaves room for the topics is checked when the interface is loaded. The functions are read
back from the generated code here and compared with the inputs of the entry one by one
(`filters_match_topics`). The functions have the names of fields unless no input of the event has a
name: then the fields have none, either.
-/

set_option autoImplicit false

/-! ## Reading declarations -/

namespace AbiBindings.Code

/-- The name and the fields of the first type that is declared. -/
def declaredType? : List Token → Option (String × Token)
  | [] => none
  | .word "struct" :: .word name :: fields :: _ => some (name, fields)
  | _ :: rest => declaredType? rest

/-- The type of the first implementation without a trait, and its operations. -/
def implementation? : List Token → Option (String × List Token)
  | [] => none
  | .word "impl" :: .word name :: .group .curly body :: _ => some (name, body)
  | _ :: rest => implementation? rest

/-- A function with its parameters and its body. -/
structure FunctionCode where
  name : String
  parameters : List Token
  body : List Token

/-- The functions of a block, in order. -/
def functions : List Token → List FunctionCode
  | [] => []
  | .word "fn" :: .word name :: .group .round parameters :: rest =>
    ((block? rest).map (FunctionCode.mk name parameters)).toList ++ functions rest
  | _ :: rest => functions rest

/-- A name before brackets other than curly ones is not that of an implementation. -/
theorem implementation?_word_round (word : String) (body rest : List Token) :
    implementation? (.word word :: round body :: rest) = implementation? rest := by
  have hname : implementation? (.word word :: round body :: rest) =
      implementation? (round body :: rest) := by
    rw [implementation?]
    intro name body' rest' _ heq
    cases heq
  rw [hname]
  rfl

end AbiBindings.Code

namespace AbiBindings.Abi

/-! ## Types that a topic holds -/

/-- The elementary types whose values fit into a topic. -/
inductive IsElementaryValue : ParamType → Prop
  | address : IsElementaryValue .address
  | bool : IsElementaryValue .bool
  | fixedBytes (size : Nat) : IsElementaryValue (.fixedBytes size)
  | uint (bits : Nat) : IsElementaryValue (.uint bits)
  | int (bits : Nat) : IsElementaryValue (.int bits)

/-- The elementary types of values are those whose values a topic holds. -/
theorem isElementaryValue_iff {type : ParamType} : IsElementaryValue type ↔ type.isValueType := by
  constructor
  · intro h
    cases h <;> rfl
  · intro h
    cases type with
    | address => exact .address
    | bool => exact .bool
    | fixedBytes size => exact .fixedBytes size
    | uint bits => exact .uint bits
    | int bits => exact .int bits
    | string | bytes => cases h
    | array _ | fixedArray _ _ | tuple _ => cases h

/-! ## Room for topics -/

/-- An event that is loaded has no more indexed inputs than there are topics for them. -/
theorem length_indexed_le_of_load {allowEmpty : Bool} {delivery : Json.Delivery}
    {document : List UInt8} {abi : Interface} (h : load allowEmpty delivery document = .ok abi)
    {e : Entry} (he : e ∈ abi.events) :
    (e.inputs.filter (·.indexed)).length ≤ if e.anonymous then 4 else 3 := by
  unfold load at h
  cases hread : readDeclarations delivery document with
  | error fault =>
    rw [hread] at h
    cases h
  | ok declarations =>
    rw [hread] at h
    obtain ⟨-, hinterface⟩ := loadDeclarations_eq_ok_iff.1 h
    obtain ⟨hsound, hentries⟩ := interface_eq_ok_iff.1 hinterface
    obtain ⟨hmem, hkind⟩ := List.mem_filter.1 he
    rw [hentries] at hmem
    obtain ⟨d, hd, rfl⟩ := List.mem_map.1 hmem
    obtain ⟨i, hi⟩ := List.getElem?_of_mem hd
    have hevent : d.kind = .event := of_decide_eq_true hkind
    have hname : ¬ d.Breaks ([] ++ declarations.take i) .missingName :=
      fun hbreaks => hsound i _ ⟨d, hi, hbreaks⟩
    have hcount : ¬ d.Breaks ([] ++ declarations.take i) .tooManyIndexed :=
      fun hbreaks => hsound i _ ⟨d, hi, hbreaks⟩
    have hentry := entryOf_entry hname
    have hinputs : d.entry.inputs = d.inputs := by rw [hentry.inputs, if_pos hevent]
    have hanonymous : d.entry.anonymous = d.anonymous := by
      rw [Bool.eq_iff_iff, hentry.anonymous]
      exact and_iff_right hevent
    rw [hinputs, hanonymous]
    exact Nat.le_of_not_lt fun hlt => hcount ⟨hevent, hlt⟩

end AbiBindings.Abi

namespace AbiBindings.Bindings

open Abi Code Traversal

/-! ## The code of a filter builder -/

/-- The function of a filter builder that sets the topic at a position to a value of a type. -/
def setterCode (builder name : String) (position : Nat) (topic : List Token) : FunctionCode where
  name := name
  parameters := phrase "self , topic :" ++ generic (runtimeType "Topic") topic
  body := [nameToken builder,
    round (phrase "self . 0 . topic" ++ [round (numberLiteral position :: phrase ", topic")])]

/-- The functions of a filter builder are its setters. -/
theorem functions_setters (builder : String) (setters : List Setter) :
    functions (setters.flatMap (Setter.tokens builder)) =
      setters.map fun s => setterCode builder s.name s.position s.topicTokens := by
  induction setters with
  | nil => rfl
  | cons s rest ih =>
    have hfirst : ∀ behind, functions (s.tokens builder ++ behind) =
        setterCode builder s.name s.position s.topicTokens :: functions behind :=
      fun _ => rfl
    rw [List.flatMap_cons, hfirst, ih, List.map_cons]

/-- The functions of a filter builder have the names of the indexed fields. -/
theorem names_functions_setters (e : EventBinding) :
    (functions (e.setters.flatMap (Setter.tokens e.builder))).map (·.name) =
      e.indexedFields.map (·.name) := by
  calc (functions (e.setters.flatMap (Setter.tokens e.builder))).map (·.name)
      = e.indexedFields.zipIdx.map fun x => x.1.name := by
        rw [functions_setters, EventBinding.setters, List.map_map, List.map_map]
        rfl
    _ = (e.indexedFields.zipIdx.map Prod.fst).map (·.name) := by rw [List.map_map]; rfl
    _ = e.indexedFields.map (·.name) := by rw [List.zipIdx_map_fst]

/-- The first implementation without a trait in the definition of a filter builder is the one with
the setters. -/
theorem implementation?_builderDefinition (e : EventBinding) :
    implementation? e.builderDefinition =
      some (e.builder, e.setters.flatMap (Setter.tokens e.builder)) := by
  have hdeclared : ∃ rest, implementation? e.builderDefinition =
      implementation? (.word e.builder :: round (phrase "pub" ++ e.untypedBuilder) ::
        .mark ';' false :: .word "impl" :: .word e.builder ::
          curly (e.setters.flatMap (Setter.tokens e.builder)) :: rest) :=
    ⟨_, rfl⟩
  obtain ⟨rest, hrest⟩ := hdeclared
  rw [hrest, implementation?_word_round]
  rfl

/-- The fields of a type that is declared for inputs. They have no names if no input has one. -/
def declaredFields (parameters : List Parameter) (inputs : List Argument) : Token :=
  if parameters.all fun p => p.name = "" then
    round (commaTerminated (inputs.map fun a => phrase "pub" ++ typeTokens a.type))
  else curly (commaTerminated (inputs.map fun a => phrase "pub" ++ a.tokens))

/-- The type of an event has fields for its inputs. -/
theorem declaredType?_of_event {aliases : Naming.Aliases} {entries : List Entry}
    {policy : TypePolicy} {e : Entry} {binding : EventBinding}
    (h : event policy (Naming.resolveOne aliases entries e e.types) = .ok binding)
    (further : List (List Token)) :
    declaredType? (binding.typeDefinition further) =
      some (binding.identifier, declaredFields e.inputs binding.member.inputs) := by
  have hnamed := (event_eq_ok h).namedFields
  rw [Naming.entry_resolveOne] at hnamed
  have hfields : ∃ behind, binding.fieldTokens =
      declaredFields e.inputs binding.member.inputs :: behind := by
    unfold EventBinding.fieldTokens declaredFields
    rw [hnamed, EventBinding.member, List.map_map, List.map_map]
    cases e.inputs.all fun p => p.name = "" with
    | false => exact ⟨[], rfl⟩
    | true => exact ⟨[.mark ';' false], rfl⟩
  obtain ⟨behind, hfields⟩ := hfields
  rw [EventBinding.typeDefinition, hfields]
  rfl

/-! ## Setters and inputs -/

/-- The indexed parameters with the inputs that stand for them, and with their positions. -/
def indexedInputs (parameters : List Parameter) (inputs : List Argument) :
    List ((Parameter × Argument) × Nat) :=
  ((parameters.zip inputs).filter fun pair => pair.1.indexed).zipIdx

/-- Whether a function of a filter builder is the setter of an indexed input. -/
structure IsSetterOf (policy : TypePolicy) (builder : String) (anonymous : Bool)
    (input : (Parameter × Argument) × Nat) (f : FunctionCode) : Prop where
  position : input.2 ≤ if anonymous then 3 else 2
  /-- The topic holds a value of the type of the field if it can, and a hash otherwise. -/
  code : ∃ type, input.1.1.paramType = .ok type ∧
    (IsElementaryValue type →
      f = setterCode builder input.1.2.name input.2 (typeTokens (.ofType policy type))) ∧
    (¬ IsElementaryValue type →
      f = setterCode builder input.1.2.name input.2 (runtimeType "H256"))

/-- Whether the type of an event and its filter builder, which stand in the generated code, are made
for the inputs of an entry. -/
structure FiltersByTopics (policy : TypePolicy) (code : List Token) (further : List (List Token))
    (e : Entry) (binding : EventBinding) : Prop where
  typeWritten : StandsIn (binding.typeDefinition further) code
  builderWritten : StandsIn binding.builderDefinition code
  inputs : MirrorsInputs policy [] e.inputs binding.member.inputs
  /-- If an input has a name, each field has the name of its input. -/
  named : (∃ p ∈ e.inputs, p.name ≠ "") → declaredType? (binding.typeDefinition further) =
    some (binding.identifier,
      curly (commaTerminated (binding.member.inputs.map fun a => phrase "pub" ++ a.tokens)))
  /-- If no input has a name, no field has one. -/
  unnamed : (∀ p ∈ e.inputs, p.name = "") → declaredType? (binding.typeDefinition further) =
    some (binding.identifier,
      round (commaTerminated (binding.member.inputs.map fun a => phrase "pub" ++ typeTokens a.type)))
  setters : ∃ body, implementation? binding.builderDefinition = some (binding.builder, body) ∧
    List.Forall₂ (IsSetterOf policy binding.builder e.anonymous)
      (indexedInputs e.inputs binding.member.inputs) (functions body) ∧
    binding.member.kind = .event e.anonymous ((functions body).map (·.name))

section Setters

variable {policy : TypePolicy} {parameters : List Parameter} {fs : List Field}

/-- The indexed fields stand for the indexed parameters, one by one. -/
theorem forall₂_filter_indexed (h : List.Forall₂ (FieldOf policy) parameters fs) :
    List.Forall₂ (fun pair f => FieldOf policy pair.1 f ∧ pair.2 = ⟨f.name, f.type⟩)
      ((parameters.zip (fs.map fun f => (⟨f.name, f.type⟩ : Argument))).filter
        fun pair => pair.1.indexed)
      (fs.filter (·.indexed)) := by
  induction h with
  | nil => exact .nil
  | @cons p f parameters fs hfield _ ih =>
    have hindexed := hfield.indexed
    cases hp : p.indexed with
    | true => simpa [hp, hindexed] using ⟨hfield, ih⟩
    | false => simpa [hp, hindexed] using ih

/-- Lists that are related element by element are so with positions, which lie behind the first. -/
theorem forall₂_zipIdx {α β : Type} {r : α → β → Prop} {l : List α} {l' : List β}
    (h : List.Forall₂ r l l') (first : Nat) :
    List.Forall₂ (fun x y => r x.1 y.1 ∧ x.2 = y.2 ∧ x.2 < first + l.length)
      (l.zipIdx first) (l'.zipIdx first) := by
  induction h generalizing first with
  | nil => exact .nil
  | @cons a b l l' hab _ ih =>
    rw [List.zipIdx_cons, List.zipIdx_cons, List.length_cons]
    refine .cons ⟨hab, rfl, by omega⟩ ((ih (first + 1)).imp ?_)
    rintro x y ⟨hr, hposition, hlt⟩
    exact ⟨hr, hposition, by omega⟩

/-- As many pairs are kept as first elements. -/
theorem length_filter_zip {α β : Type} {p : α → Bool} {l : List α} {l' : List β}
    (h : l.length = l'.length) :
    ((l.zip l').filter fun pair => p pair.1).length = (l.filter p).length := by
  have hfirst : (l.zip l').map Prod.fst = l := List.map_fst_zip (Nat.le_of_eq h)
  calc ((l.zip l').filter fun pair => p pair.1).length
      = (((l.zip l').filter fun pair => p pair.1).map Prod.fst).length := by rw [List.length_map]
    _ = (((l.zip l').map Prod.fst).filter p).length := by rw [List.filter_map]; rfl
    _ = (l.filter p).length := by rw [hfirst]

/-- The setter of the field of an indexed parameter is the setter of that parameter. -/
theorem isSetterOf_of_fieldOf {p : Parameter} {f : Field} {anonymous : Bool} {position : Nat}
    (builder : String) (h : FieldOf policy p f)
    (hposition : position < if anonymous then 4 else 3) :
    IsSetterOf policy builder anonymous ((p, ⟨f.name, f.type⟩), position)
      (setterCode builder f.name position
        (Setter.topicTokens ⟨f.name, position, if f.valueTopic then some f.type else none⟩)) := by
  obtain ⟨type, htype, hdescriptor, hvalue⟩ := h.type
  refine ⟨?_, type, htype, ?_, ?_⟩
  · cases anonymous with
    | false => exact Nat.le_of_lt_succ hposition
    | true => exact Nat.le_of_lt_succ hposition
  · intro helementary
    rw [hvalue, isElementaryValue_iff.1 helementary, hdescriptor]
    rfl
  · intro hnot
    have hhashed : ¬ f.valueTopic := by
      rw [hvalue]
      exact mt isElementaryValue_iff.2 hnot
    rw [if_neg hhashed]
    rfl

/-- The functions of a filter builder are the setters of the indexed inputs, one by one. -/
theorem forall₂_isSetterOf {binding : EventBinding} {anonymous : Bool}
    (h : List.Forall₂ (FieldOf policy) parameters binding.fields)
    (hcount : (parameters.filter (·.indexed)).length ≤ if anonymous then 4 else 3) :
    List.Forall₂ (IsSetterOf policy binding.builder anonymous)
      (indexedInputs parameters binding.member.inputs)
      (functions (binding.setters.flatMap (Setter.tokens binding.builder))) := by
  have hlength : parameters.length = binding.member.inputs.length := by
    rw [EventBinding.member, List.length_map, h.length_eq]
  rw [← length_filter_zip hlength] at hcount
  rw [functions_setters, List.forall₂_map_right_iff, EventBinding.setters,
    List.forall₂_map_right_iff]
  refine (forall₂_zipIdx (forall₂_filter_indexed h) 0).imp ?_
  rintro ⟨⟨p, a⟩, position⟩ ⟨f, position'⟩ ⟨⟨hfield, harguments⟩, hpositions, hlt⟩
  obtain rfl : a = ⟨f.name, f.type⟩ := harguments
  obtain rfl : position = position' := hpositions
  rw [Nat.zero_add] at hlt
  exact isSetterOf_of_fieldOf binding.builder hfield (Nat.lt_of_lt_of_le hlt hcount)

end Setters

/-! ## Events -/

/-- The type and the filter builder of an event with few indexed inputs are made for its inputs. -/
theorem filtersByTopics_of_event {aliases : Naming.Aliases} {entries : List Entry}
    {policy : TypePolicy} {code : List Token} {further : List (List Token)} {e : Entry}
    {binding : EventBinding} (htyped : AllTyped e.inputs)
    (hcount : (e.inputs.filter (·.indexed)).length ≤ if e.anonymous then 4 else 3)
    (h : event policy (Naming.resolveOne aliases entries e e.types) = .ok binding)
    (htype : StandsIn (binding.typeDefinition further) code)
    (hbuilder : StandsIn binding.builderDefinition code) :
    FiltersByTopics policy code further e binding where
  typeWritten := htype
  builderWritten := hbuilder
  inputs := (isEventMember_of_event htyped h).inputs
  named := by
    intro hnamed
    have hnot : ¬ e.inputs.all fun p => p.name = "" := by simpa using hnamed
    rw [declaredType?_of_event h, declaredFields, if_neg hnot]
  unnamed := by
    intro hunnamed
    have hall : e.inputs.all fun p => p.name = "" := by simpa using hunnamed
    rw [declaredType?_of_event h, declaredFields, if_pos hall]
  setters := by
    obtain ⟨-, hfields⟩ := fields_of_event htyped h
    refine ⟨_, implementation?_builderDefinition binding, forall₂_isSetterOf hfields hcount, ?_⟩
    rw [names_functions_setters, EventBinding.member, (event_eq_ok h).anonymous,
      Naming.entry_resolveOne]

/-- The filter builder of every event of an interface that is loaded is made for its entry. -/
theorem forall₂_filtersByTopics {allowEmpty : Bool} {delivery : Json.Delivery}
    {document : List UInt8} {settings : Settings} {name : String} {code : Bytecode}
    {abi : Interface} {b : ContractBindings} (hload : load allowEmpty delivery document = .ok abi)
    (h : generate settings name abi code = .ok b) :
    List.Forall₂ (FiltersByTopics settings.policy b.tokens b.setup.derives) abi.events b.events := by
  obtain ⟨setup, d, ms, es, -, hprepared, -, -, hes, rfl⟩ := generate_eq_ok h
  rw [events_eq_mapM] at hes
  refine forall₂_of_candidates hprepared.eventInputs hes ?_
  intro e he binding hbinding htyped hevent
  exact filtersByTopics_of_event htyped (length_indexed_le_of_load hload he) hevent
    (typeDefinition_standsIn hbinding) (builderDefinition_standsIn hbinding)

/-- The filter builder of every event matches its topics, and stands in the generated code as the
type of the event does. It has one function for each indexed input of the event, in order. The
function has the name of that input, which stands at the same place among the indexed inputs of the
member, and it sets the topic whose position is the number of indexed inputs before. If an input of
the event has a name, it is the name of the field, too; otherwise no field has a name. The positions
are at most 2, and at most 3 for an anonymous event. The topic is of the type of the field for the
elementary types whose values it holds, and a hash for all other types. -/
theorem filters_match_topics {allowEmpty : Bool} {delivery : Json.Delivery} {document : List UInt8}
    {settings : Settings} {name : String} {code : Bytecode} {abi : Interface}
    {b : ContractBindings} (hload : load allowEmpty delivery document = .ok abi)
    (h : generate settings name abi code = .ok b) :
    MembersStand b ∧
      List.Forall₂ (FiltersByTopics settings.policy b.tokens b.setup.derives) abi.events
        b.events := by
  exact ⟨membersStand b, forall₂_filtersByTopics hload h⟩

/-- A pool with an anonymous event, one of whose inputs is not indexed and two of which have no
name. -/
def poolDocument : List UInt8 :=
  Text.Utf8.encode <|
    "[\x7b\"type\":\"event\",\"name\":\"Swap\",\"anonymous\":true,\"inputs\":[" ++
      "\x7b\"type\":\"string\"\x7d,\x7b\"name\":\"to\",\"type\":\"address\",\"indexed\":true\x7d," ++
      "\x7b\"type\":\"int24[]\",\"indexed\":true\x7d]\x7d]"

/-- The event of the pool. -/
def poolSwap : Entry :=
  ⟨.event, some "Swap", [⟨"", "string", [], false⟩, ⟨"to", "address", [], true⟩,
    ⟨"", "int24[]", [], true⟩], [], .nonpayable, true⟩

/-- The filter builder of the pool has setters for the two indexed inputs of its event, and the type
of the event has fields of the same names. -/
theorem filters_match_topics_pool :
    ∃ abi b binding, load false .bytes poolDocument = .ok abi ∧
      generate {} "Pool" abi .notProvided = .ok b ∧ abi.events = [poolSwap] ∧
      b.events = [binding] ∧
      FiltersByTopics .native b.tokens b.setup.derives poolSwap binding ∧
      ∃ p ∈ poolSwap.inputs, p.name ≠ "" := by
  have hread : readDeclarations .bytes poolDocument =
      .ok [⟨.event, some "Swap", poolSwap.inputs, [], none, false, false, true⟩] := by
    decide +kernel
  have hload : load false .bytes poolDocument = .ok ⟨[poolSwap]⟩ := by
    rw [load, hread]
    rfl
  have hgenerate : ∃ b, generate {} "Pool" ⟨[poolSwap]⟩ .notProvided = .ok b :=
    isOk_iff.1 (by decide +kernel)
  obtain ⟨b, hb⟩ := hgenerate
  obtain ⟨-, hfilters⟩ := filters_match_topics hload hb
  have hevents : (⟨[poolSwap]⟩ : Interface).events = [poolSwap] := rfl
  rw [hevents] at hfilters
  obtain ⟨binding, _, hbinding, hnil, hbindings⟩ := List.forall₂_cons_left_iff.1 hfilters
  obtain rfl := List.forall₂_nil_left_iff.1 hnil
  exact ⟨_, b, binding, hload, hb, hevents, hbindings, hbinding, _, .tail _ (.head _), by decide⟩

/-- A logger with an event whose only input is indexed and has no name. -/
def loggerDocument : List UInt8 :=
  Text.Utf8.encode <|
    "[\x7b\"type\":\"event\",\"name\":\"Log\",\"inputs\":[" ++
      "\x7b\"name\":\"\",\"type\":\"address\",\"indexed\":true\x7d]\x7d]"

/-- The event of the logger. -/
def loggerLog : Entry :=
  ⟨.event, some "Log", [⟨"", "address", [], true⟩], [], .nonpayable, false⟩

/-- Whether the fields of a type are named, and one of them by a given name. -/
def NamesField (fields : Token) (name : String) : Prop :=
  ∃ before type after, fields =
    curly (before ++ (phrase "pub" ++ nameToken name :: .mark ':' false :: type) ++ after)

/-- Whether every setter of a filter builder has the name of a field of the type of the event. -/
def SettersNameFields (further : List (List Token)) (binding : EventBinding) : Prop :=
  ∃ fields body, declaredType? (binding.typeDefinition further) =
      some (binding.identifier, fields) ∧
    implementation? binding.builderDefinition = some (binding.builder, body) ∧
    ∀ f ∈ functions body, NamesField fields f.name

/-- The filter builder of the logger has a setter, but the type of its event has no fields with
names. -/
theorem setters_name_no_field_logger :
    ∃ abi b binding, load false .bytes loggerDocument = .ok abi ∧
      generate {} "Logger" abi .notProvided = .ok b ∧ b.events = [binding] ∧
      StandsIn (binding.typeDefinition b.setup.derives) b.tokens ∧
      ¬ SettersNameFields b.setup.derives binding := by
  have hread : readDeclarations .bytes loggerDocument =
      .ok [⟨.event, some "Log", loggerLog.inputs, [], none, false, false, false⟩] := by
    decide +kernel
  have hload : load false .bytes loggerDocument = .ok ⟨[loggerLog]⟩ := by
    rw [load, hread]
    rfl
  have hgenerate : ∃ b, generate {} "Logger" ⟨[loggerLog]⟩ .notProvided = .ok b :=
    isOk_iff.1 (by decide +kernel)
  obtain ⟨b, hb⟩ := hgenerate
  have hfilters := forall₂_filtersByTopics hload hb
  have hevents : (⟨[loggerLog]⟩ : Interface).events = [loggerLog] := rfl
  rw [hevents] at hfilters
  obtain ⟨binding, _, hbinding, hnil, hbindings⟩ := List.forall₂_cons_left_iff.1 hfilters
  obtain rfl := List.forall₂_nil_left_iff.1 hnil
  refine ⟨_, b, binding, hload, hb, hbindings, hbinding.typeWritten, ?_⟩
  rintro ⟨fields, body, hfields, hbody, hnames⟩
  obtain ⟨body', hbody', hsetters, -⟩ := hbinding.setters
  obtain rfl : body = body' := (Prod.mk.inj (Option.some.inj (hbody.symm.trans hbody'))).2
  have hunnamed := hbinding.unnamed (by decide)
  obtain rfl := (Prod.mk.inj (Option.some.inj (hfields.symm.trans hunnamed))).2
  -- the one indexed input has a setter, and brackets around fields without names are round
  have htypes := hbinding.inputs.types
  obtain ⟨input, _, -, hnone, hinputs⟩ := List.forall₂_cons_left_iff.1 htypes
  obtain rfl := List.forall₂_nil_left_iff.1 hnone
  rw [hinputs] at hsetters
  obtain ⟨f, _, -, -, hfunctions⟩ := List.forall₂_cons_left_iff.1 hsetters
  have hf : f ∈ functions body := by
    rw [hfunctions]
    exact List.mem_cons_self
  obtain ⟨before, type, after, hcurly⟩ := hnames f hf
  exact absurd (Token.group.inj hcurly).1 (by decide)

end AbiBindings.Bindings
