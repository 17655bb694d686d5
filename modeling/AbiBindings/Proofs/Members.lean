import AbiBindings.Bindings.Source
import AbiBindings.Proofs.UniqueNames

/-!
# Members mirror the interface

The bindings of an interface have one member for the deploy operation, one for each function and one
for each event, in the order of the interface. Names, types and flags of a member are found apart
from each other and are joined by position; here they are shown to stay aligned, so that the `i`-th
input of a member is the `i`-th input of its entry. Nothing else of an interface reaches the
bindings: entries of other kinds and the order of entries of different kinds leave no trace
(`generate_mirrors_interface`).
-/

set_option autoImplicit false

namespace AbiBindings.Bindings

open Abi Traversal

variable {policy : TypePolicy} {location : Location} {parameters : List Parameter}

/-! ## What a member takes over from an entry -/

/-- Whether a type of the generated code stands for the type of a parameter. -/
def Describes (policy : TypePolicy) (p : Parameter) (descriptor : TypeDescriptor) : Prop :=
  ∃ type, p.paramType = .ok type ∧ descriptor = .ofType policy type

/-- Whether inputs are named and typed after a list of parameters, position by position. -/
structure MirrorsInputs (policy : TypePolicy) (reserved : List String)
    (parameters : List Parameter) (inputs : List Argument) : Prop where
  names : inputs.map (·.name) = Naming.inputNames reserved (parameters.map (·.name))
  types : List.Forall₂ (fun p a => Describes policy p a.type) parameters inputs

/-- The names of the inputs whose parameters are indexed, in order. -/
def indexedNames (parameters : List Parameter) (inputs : List Argument) : List String :=
  ((parameters.zip inputs).filter fun pair => pair.1.indexed).map fun pair => pair.2.name

/-- Whether a member is the deploy operation of an interface. -/
structure IsDeployMember (policy : TypePolicy) (abi : Interface) (code : Bytecode) (m : Member) :
    Prop where
  identifier : m.identifier = "deploy"
  signature : m.signature = none
  kind : m.kind = .deploy (!code.isNotProvided)
  inputs : MirrorsInputs policy deployNames (constructorInputs abi) m.inputs
  outputs : m.outputs = []

/-- Whether a member mirrors a function: a function that can change the state is submitted, and
every function is simulated. -/
structure IsFunctionMember (policy : TypePolicy) (e : Entry) (m : Member) : Prop where
  signature : ∃ signature, e.signature = .ok signature ∧ m.signature = some signature
  kind : m.kind = .function e.mutability (!e.mutability.isReadOnly) true
  inputs : MirrorsInputs policy [] e.inputs m.inputs
  outputs : List.Forall₂ (Describes policy) e.outputs m.outputs

/-- Whether a member mirrors an event. -/
structure IsEventMember (policy : TypePolicy) (e : Entry) (m : Member) : Prop where
  signature : ∃ signature, e.signature = .ok signature ∧ m.signature = some signature
  kind : m.kind = .event e.anonymous (indexedNames e.inputs m.inputs)
  inputs : MirrorsInputs policy [] e.inputs m.inputs
  outputs : m.outputs = []

/-! ## Inputs and outputs -/

/-- A parameter is described by the descriptor of its type. -/
theorem describe_eq_ok_iff {p : Parameter} {descriptor : TypeDescriptor} :
    describe policy location p = .ok descriptor ↔ Describes policy p descriptor := by
  unfold describe Describes
  cases p.paramType with
  | ok type => simp [eq_comm]
  | error error => simp

/-- Parameters are described one by one. -/
theorem describeAll_eq_ok_iff {descriptors : List TypeDescriptor} :
    describeAll policy location parameters = .ok descriptors ↔
      List.Forall₂ (Describes policy) parameters descriptors := by
  rw [describeAll_eq_mapM, mapM_eq_ok_iff]
  simp only [describe_eq_ok_iff]

/-- Names and types are found apart from each other; both lists are as long as that of the
parameters, so joining them cuts nothing off. -/
theorem mirrorsInputs_of_arguments {reserved : List String} {inputs : List Argument}
    (h : arguments policy location reserved parameters = .ok inputs) :
    MirrorsInputs policy reserved parameters inputs where
  names := arguments_names h
  types := by
    obtain ⟨types, htypes, h⟩ := bind_eq_ok_iff.1 h
    obtain rfl := Except.ok.inj h
    have hlength : types.length =
        (Naming.inputNames reserved (parameters.map (·.name))).length := by
      rw [Naming.length_inputNames, List.length_map, length_describeAll htypes]
    have hjoined : (List.zipWith Argument.mk
        (Naming.inputNames reserved (parameters.map (·.name))) types).map (·.type) = types := by
      rw [← List.map_uncurry_zip_eq_zipWith, List.map_map]
      exact List.map_snd_zip (Nat.le_of_eq hlength)
    rw [← List.forall₂_map_right_iff (f := fun a : Argument => a.type), hjoined]
    exact describeAll_eq_ok_iff.1 htypes

/-- What the field of an event takes over from an input. -/
structure FieldOf (policy : TypePolicy) (p : Parameter) (f : Field) : Prop where
  indexed : f.indexed = p.indexed
  type : ∃ type, p.paramType = .ok type ∧ f.type = .ofType policy type ∧
    f.valueTopic = type.isValueType

/-- The fields of an event are joined from three lists of one length. -/
theorem fields_eq_ok {names : List String} {types : List ParamType} {fs : List Field}
    (h : fields policy location names parameters types = .ok fs)
    (hnames : names.length = parameters.length) (htypes : typesOf parameters = .ok types) :
    fs.map (·.name) = names ∧ List.Forall₂ (FieldOf policy) parameters fs := by
  -- on the parameters: one name and one type are taken off with each of them
  induction parameters generalizing names types fs with
  | nil =>
    have hnil : names = [] := List.eq_nil_of_length_eq_zero hnames
    subst hnil
    obtain rfl := Except.ok.inj h
    exact ⟨rfl, .nil⟩
  | cons p rest ih =>
    cases names with
    | nil => cases hnames
    | cons name names =>
      obtain ⟨type, htype, htypes⟩ := bind_eq_ok_iff.1 htypes
      obtain ⟨others, hothers, htypes⟩ := bind_eq_ok_iff.1 htypes
      obtain rfl := Except.ok.inj htypes
      obtain ⟨descriptor, hdescriptor, h⟩ := bind_eq_ok_iff.1 h
      obtain ⟨fs, hfs, h⟩ := bind_eq_ok_iff.1 h
      obtain rfl := Except.ok.inj h
      have hlength : names.length = rest.length := by simpa using hnames
      obtain ⟨hname, hfields⟩ := ih hfs hlength hothers
      have hdescribes : descriptor = .ofType policy type := by
        rw [describe, htype] at hdescriptor
        exact (Except.ok.inj hdescriptor).symm
      refine ⟨by rw [List.map_cons, hname], .cons ?_ hfields⟩
      exact ⟨rfl, type, htype, hdescribes, rfl⟩

/-- The inputs of the member of an event are its fields. -/
theorem indexedNames_fields {fs : List Field} (h : List.Forall₂ (FieldOf policy) parameters fs) :
    indexedNames parameters (fs.map fun f => ⟨f.name, f.type⟩) =
      (fs.filter (·.indexed)).map (·.name) := by
  induction h with
  | nil => rfl
  | @cons p f parameters fs hfield _ ih =>
    have hindexed := hfield.indexed
    cases hp : p.indexed with
    | true => simpa [indexedNames, hp, hindexed] using ih
    | false => simpa [indexedNames, hp, hindexed] using ih

/-! ## One member for one entry -/

variable {abi : Interface} {aliases : Naming.Aliases} {entries : List Entry}

/-- An entry whose inputs have types has the signature of its title and these types. -/
theorem signature_of_allTyped {e : Entry} (h : AllTyped e.inputs) :
    e.signature = .ok (signatureOf e.title e.types) := by
  rw [Entry.signature, Entry.inputTypes_eq_types h]
  rfl

/-- The member of the deploy operation mirrors the constructor. -/
theorem isDeployMember_of_deployment {d : Deployment} (h : deployment policy abi = .ok d)
    (code : Bytecode) : IsDeployMember policy abi code (d.member code) := by
  refine ⟨rfl, rfl, rfl, ?_, rfl⟩
  unfold deployment at h
  unfold constructorInputs
  cases hconstructor : abi.constructor? with
  | none =>
    rw [hconstructor] at h
    obtain rfl := Except.ok.inj h
    exact ⟨rfl, .nil⟩
  | some e =>
    rw [hconstructor] at h
    obtain ⟨inputs, hinputs, h⟩ := bind_eq_ok_iff.1 h
    obtain rfl := Except.ok.inj h
    exact mirrorsInputs_of_arguments hinputs

/-- The member of a method mirrors the function. -/
theorem isFunctionMember_of_method {e : Entry} {m : Method} (htyped : AllTyped e.inputs)
    (h : method policy (Naming.resolveOne aliases entries e e.types) = .ok m) :
    IsFunctionMember policy e m.member := by
  have hmethod := method_eq_ok h
  have hinputs := hmethod.inputs
  have houtputs := hmethod.outputs
  have hmutability := hmethod.mutability
  have hsignature := hmethod.signature
  rw [Naming.entry_resolveOne] at hinputs houtputs hmutability
  rw [Naming.signature_resolveOne] at hsignature
  constructor
  · exact ⟨_, signature_of_allTyped htyped, congrArg some hsignature⟩
  · rw [Method.member, hmutability]
  · exact mirrorsInputs_of_arguments hinputs
  · exact describeAll_eq_ok_iff.1 houtputs

/-- The fields of an event stand for its inputs, under the names of these. -/
theorem fields_of_event {e : Entry} {binding : EventBinding} (htyped : AllTyped e.inputs)
    (h : event policy (Naming.resolveOne aliases entries e e.types) = .ok binding) :
    binding.fields.map (·.name) = Naming.inputNames [] (e.inputs.map (·.name)) ∧
      List.Forall₂ (FieldOf policy) e.inputs binding.fields := by
  have hfields := (event_eq_ok h).fields
  rw [Naming.entry_resolveOne, Naming.types_resolveOne] at hfields
  have hlength : (Naming.inputNames [] (e.inputs.map (·.name))).length = e.inputs.length := by
    rw [Naming.length_inputNames, List.length_map]
  exact fields_eq_ok hfields hlength (Entry.inputTypes_eq_types htyped)

/-- The member of an event mirrors the event. -/
theorem isEventMember_of_event {e : Entry} {binding : EventBinding} (htyped : AllTyped e.inputs)
    (h : event policy (Naming.resolveOne aliases entries e e.types) = .ok binding) :
    IsEventMember policy e binding.member := by
  have hevent := event_eq_ok h
  have hanonymous := hevent.anonymous
  have hsignature := hevent.signature
  rw [Naming.entry_resolveOne] at hanonymous
  rw [Naming.signature_resolveOne] at hsignature
  obtain ⟨hnames, hfields⟩ := fields_of_event htyped h
  constructor
  · exact ⟨_, signature_of_allTyped htyped, congrArg some hsignature⟩
  · have hindexed := indexedNames_fields hfields
    rw [EventBinding.member, hanonymous, hindexed]
    rfl
  · constructor
    · rw [← hnames, EventBinding.member, List.map_map]
      rfl
    · rw [EventBinding.member, List.forall₂_map_right_iff]
      refine hfields.imp fun p f hfield => ?_
      obtain ⟨type, htype, hdescriptor, -⟩ := hfield.type
      exact ⟨type, htype, hdescriptor⟩
  · rfl

/-- A stage that makes one result of each resolved entry gives each entry a result. -/
theorem forall₂_of_candidates {β : Type} {make : Naming.Resolved → Except GenerateError β}
    {mirrors : Entry → β → Prop} {made : List β} (htyped : Naming.InputsTyped entries)
    (h : (Naming.candidates aliases entries).mapM make = .ok made)
    (hmirrors : ∀ e ∈ entries, ∀ b ∈ made, AllTyped e.inputs →
      make (Naming.resolveOne aliases entries e e.types) = .ok b → mirrors e b) :
    List.Forall₂ mirrors entries made := by
  have hmade := mapM_eq_ok_iff.1 h
  rw [Naming.candidates, List.forall₂_map_left_iff] at hmade
  -- every result stands beside its entry, and both are of their lists
  have hentries := (List.forall₂_and_left entries made).2 ⟨fun _ he => he, hmade⟩
  have hboth := (List.forall₂_and_left made entries).2 ⟨fun _ hb => hb, hentries.flip⟩
  refine hboth.flip.imp ?_
  rintro e b ⟨hb, he, hmake⟩
  exact hmirrors e he b hb (htyped e he) hmake

/-- The members of the methods mirror the functions, one by one. -/
theorem forall₂_isFunctionMember {ms : List Method} (htyped : Naming.InputsTyped entries)
    (h : methods policy (Naming.candidates aliases entries) = .ok ms) :
    List.Forall₂ (IsFunctionMember policy) entries (ms.map Method.member) := by
  rw [methods_eq_mapM] at h
  rw [List.forall₂_map_right_iff]
  exact forall₂_of_candidates htyped h fun e _ m _ he hm => isFunctionMember_of_method he hm

/-- The members of the events mirror the events, one by one. -/
theorem forall₂_isEventMember {es : List EventBinding} (htyped : Naming.InputsTyped entries)
    (h : events policy (Naming.candidates aliases entries) = .ok es) :
    List.Forall₂ (IsEventMember policy) entries (es.map EventBinding.member) := by
  rw [events_eq_mapM] at h
  rw [List.forall₂_map_right_iff]
  exact forall₂_of_candidates htyped h fun e _ b _ he hb => isEventMember_of_event he hb

end AbiBindings.Bindings

/-! ## What does not reach the bindings -/

namespace AbiBindings.Abi

/-- Whether members are made of the entries of a kind. -/
def EntryKind.isGenerated : EntryKind → Bool
  | .constructor | .function | .event => true
  | .fallback | .receive | .error => false

namespace Interface

/-- An interface without the entries that no member is made of. -/
def generated (abi : Interface) : Interface :=
  ⟨abi.entries.filter fun e => e.kind.isGenerated⟩

/-- No entry is missing among those that bindings are generated for. -/
theorem ofKind_generated (abi : Interface) {kind : EntryKind} (h : kind.isGenerated) :
    abi.generated.ofKind kind = abi.ofKind kind := by
  unfold generated ofKind
  rw [List.filter_filter]
  apply List.filter_congr
  intro e _
  by_cases hkind : e.kind = kind
  · simp [hkind, h]
  · simp [hkind]

end Interface

end AbiBindings.Abi

namespace AbiBindings.Bindings

open Abi Traversal

variable {settings : Settings} {name : String} {abi : Interface} {code : Bytecode}

/-- Generation sees of an interface its first constructor, its functions and its events. -/
theorem generate_congr {other : Interface} (hconstructor : other.constructor? = abi.constructor?)
    (hfunctions : other.functions = abi.functions) (hevents : other.events = abi.events) :
    generate settings name other code = generate settings name abi code := by
  have hdeployment : deployment settings.policy other = deployment settings.policy abi := by
    rw [deployment, deployment, hconstructor]
  rw [generate, generate, hfunctions, hevents, hdeployment]

/-- The bindings mirror the interface. Their members are the deploy operation, one member for each
function and one for each event, in order, and each of them takes its signature, its types and its
flags from its entry. Whatever else the interface holds, and however constructor, functions and
events are mixed, the bindings, and with them their code, are the same. -/
theorem generate_mirrors_interface {b : ContractBindings}
    (h : generate settings name abi code = .ok b) :
    (∃ deploy functions events, b.members = deploy :: (functions ++ events) ∧
      IsDeployMember settings.policy abi code deploy ∧
      List.Forall₂ (IsFunctionMember settings.policy) abi.functions functions ∧
      List.Forall₂ (IsEventMember settings.policy) abi.events events) ∧
    (∀ other : Interface, other.constructor? = abi.constructor? →
      other.functions = abi.functions → other.events = abi.events →
      generate settings name other code = .ok b) ∧
    generate settings name abi.generated code = .ok b := by
  refine ⟨?_, ?_, ?_⟩
  · obtain ⟨setup, d, ms, es, -, hprepared, hd, hms, hes, rfl⟩ := generate_eq_ok h
    refine ⟨d.member code, ms.map Method.member, es.map EventBinding.member, rfl, ?_, ?_, ?_⟩
    · exact isDeployMember_of_deployment hd code
    · exact forall₂_isFunctionMember hprepared.functionInputs hms
    · exact forall₂_isEventMember hprepared.eventInputs hes
  · intro other hconstructor hfunctions hevents
    rw [generate_congr hconstructor hfunctions hevents, h]
  · have hconstructor : abi.generated.constructor? = abi.constructor? :=
      congrArg List.head? (abi.ofKind_generated rfl)
    rw [generate_congr hconstructor (abi.ofKind_generated rfl) (abi.ofKind_generated rfl), h]

/-- A function that takes an array of pairs. -/
def auctionBid : Entry :=
  ⟨.function, some "bid", [⟨"offers", "tuple[2]", [⟨"lot", "uint8", [], false⟩,
      ⟨"price", "uint256", [], false⟩], false⟩], [⟨"", "bool", [], false⟩], .payable, false⟩

/-- An event whose indexed inputs are an unnamed one and one of a type without a fixed size. -/
def auctionClosed : Entry :=
  ⟨.event, some "Closed", [⟨"", "address", [], true⟩, ⟨"note", "string", [], false⟩,
      ⟨"lots", "uint8[]", [], true⟩], [], .nonpayable, false⟩

/-- An interface with entries of all kinds, the event first. -/
def auctionInterface : Interface :=
  ⟨[auctionClosed, ⟨.fallback, none, [], [], .payable, false⟩, auctionBid,
    ⟨.receive, none, [], [], .payable, false⟩,
    ⟨.constructor, none, [⟨"binary", "string", [], false⟩], [], .nonpayable, false⟩,
    ⟨.error, some "Late", [⟨"by", "fixed", [], false⟩], [], .nonpayable, false⟩]⟩

/-- The auction has three members, and its bindings do not change if its entries are reversed. -/
theorem generate_mirrors_interface_auction :
    ∃ b, generate {} "Auction" auctionInterface .notProvided = .ok b ∧
      (∃ deploy bid closed, b.members = [deploy, bid, closed] ∧
        IsFunctionMember .native auctionBid bid ∧ IsEventMember .native auctionClosed closed) ∧
      generate {} "Auction" ⟨auctionInterface.entries.reverse⟩ .notProvided = .ok b := by
  have hsetup : ∃ setup, ({} : Settings).setup "Auction" = .ok setup :=
    isOk_iff.1 (by decide +kernel)
  obtain ⟨setup, hsetup⟩ := hsetup
  have hgenerate : ∃ b, generate {} "Auction" auctionInterface .notProvided = .ok b := by
    obtain ⟨haliases, -⟩ := aliases_of_setup hsetup
    rw [exists_generate_iff hsetup, prepared_iff, haliases]
    decide +kernel
  obtain ⟨b, hb⟩ := hgenerate
  obtain ⟨⟨deploy, functions, events, hmembers, -, hfunctions, hevents⟩, hother, -⟩ :=
    generate_mirrors_interface hb
  have hbid : auctionInterface.functions = [auctionBid] := rfl
  have hclosed : auctionInterface.events = [auctionClosed] := rfl
  rw [hbid] at hfunctions
  rw [hclosed] at hevents
  obtain ⟨bid, _, hfunction, hnil, rfl⟩ := List.forall₂_cons_left_iff.1 hfunctions
  obtain ⟨closed, _, hevent, hnil', rfl⟩ := List.forall₂_cons_left_iff.1 hevents
  obtain rfl := List.forall₂_nil_left_iff.1 hnil
  obtain rfl := List.forall₂_nil_left_iff.1 hnil'
  exact ⟨b, hb, ⟨deploy, bid, closed, hmembers, hfunction, hevent⟩, hother _ rfl rfl rfl⟩

end AbiBindings.Bindings
