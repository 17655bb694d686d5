import AbiBindings.Proofs.Generation

/-!
# What the type policy and the compiled code decide

The type policy chooses how integers are represented and the compiled code is embedded as it is;
nothing else of the bindings depends on either. Every stage of generation commutes with the change
to another policy: it fails as before, or its result is the one before with each integer represented
anew (`generate_represent`). Hence two runs that differ in policy and code fail alike, or their
bindings are the same up to code and representation (`generate_agrees_across_policies`).
-/

set_option autoImplicit false

namespace AbiBindings.Bindings

open Abi Traversal

/-! ## Types under another policy -/

namespace TypeDescriptor

mutual

/-- A type with its integers represented as a policy has it. -/
def represent (policy : TypePolicy) : TypeDescriptor → TypeDescriptor
  | .integer signed bits _ => .integer signed bits (.choose policy bits)
  | .array element length => .array (element.represent policy) length
  | .tuple components => .tuple (representComponents policy components)
  | type => type

/-- Components with their integers represented as a policy has it. -/
def representComponents (policy : TypePolicy) :
    List (String × TypeDescriptor) → List (String × TypeDescriptor)
  | [] => []
  | (name, type) :: rest => (name, type.represent policy) :: representComponents policy rest

end

/-- A type without regard to how its integers are represented: the exact policy represents all of
them in the same way. -/
def erased (type : TypeDescriptor) : TypeDescriptor :=
  type.represent .exact

/-- Whether a type is made of no other types. -/
def isElementary : TypeDescriptor → Bool
  | array _ _ => false
  | tuple _ => false
  | _ => true

/-- What holds of elementary types and is handed on to arrays and tuples holds of every type. -/
@[elab_as_elim]
theorem shapeInduction {motive : TypeDescriptor → Prop}
    (elementary : ∀ type, type.isElementary → motive type)
    (array : ∀ element length, motive element → motive (.array element length))
    (tuple : ∀ components, (∀ c ∈ components, motive c.2) → motive (.tuple components))
    (type : TypeDescriptor) : motive type :=
  -- the recursor of the nested type: components are visited as lists and as pairs
  @TypeDescriptor.rec motive (fun components => ∀ c ∈ components, motive c.2) (fun c => motive c.2)
    (elementary _ rfl) (elementary _ rfl) (elementary _ rfl) (elementary _ rfl)
    (fun _ => elementary _ rfl) (fun _ _ _ => elementary _ rfl) array tuple
    (by simp) (fun _ _ head tail => List.forall_mem_cons.2 ⟨head, tail⟩) (fun _ _ type => type)
    type

/-- Components are represented one by one. -/
theorem representComponents_eq (policy : TypePolicy) (components : List (String × TypeDescriptor)) :
    representComponents policy components =
      components.map fun c => (c.1, c.2.represent policy) := by
  induction components with
  | nil => rfl
  | cons c rest ih => simp [representComponents, ih]

/-- Components are mapped one by one. -/
theorem ofComponents_eq (policy : TypePolicy) (components : List (String × ParamType)) :
    ofComponents policy components = components.map fun c => (c.1, ofType policy c.2) := by
  induction components with
  | nil => rfl
  | cons c rest ih => simp [ofComponents, ih]

/-- Components have default values if each of them has one. -/
theorem allSupportDefault_eq (components : List (String × TypeDescriptor)) :
    allSupportDefault components = components.all fun c => c.2.supportsDefault := by
  induction components with
  | nil => rfl
  | cons c rest ih => simp [allSupportDefault, ih]

/-- The type that a policy chooses, represented as another has it, is the type that the other
chooses. -/
@[simp]
theorem represent_ofType (before after : TypePolicy) (type : ParamType) :
    (ofType before type).represent after = ofType after type := by
  induction type using ParamType.shapeInduction with
  | elementary type h =>
    cases type with
    | address | bool | string | bytes | fixedBytes _ | uint _ | int _ => rfl
    | array _ | fixedArray _ _ | tuple _ => simp [ParamType.isElementary] at h
  | array element ih => simp [ofType, represent, ih]
  | fixedArray element length ih => simp [ofType, represent, ih]
  | tuple components ih =>
    simp only [ofType, represent, representComponents_eq, ofComponents_eq, List.map_map,
      TypeDescriptor.tuple.injEq]
    apply List.map_congr_left
    intro c hc
    simp [ih c hc]

/-- Representing anew forgets how integers were represented before. -/
@[simp]
theorem represent_represent (before after : TypePolicy) (type : TypeDescriptor) :
    (type.represent before).represent after = type.represent after := by
  induction type using shapeInduction with
  | elementary type h =>
    cases type with
    | address | bool | string | bytes | fixedBytes _ | integer _ _ _ => rfl
    | array _ _ | tuple _ => simp [isElementary] at h
  | array element length ih => simp [represent, ih]
  | tuple components ih =>
    simp only [represent, representComponents_eq, List.map_map, TypeDescriptor.tuple.injEq]
    apply List.map_congr_left
    intro c hc
    simp [ih c hc]

/-- Whether a type has a default value does not depend on how its integers are represented. -/
@[simp]
theorem supportsDefault_represent (policy : TypePolicy) (type : TypeDescriptor) :
    (type.represent policy).supportsDefault = type.supportsDefault := by
  induction type using shapeInduction with
  | elementary type h =>
    cases type with
    | address | bool | string | bytes | fixedBytes _ | integer _ _ _ => rfl
    | array _ _ | tuple _ => simp [isElementary] at h
  | array element length ih => cases length <;> simp [represent, supportsDefault, ih]
  | tuple components ih =>
    simp only [represent, supportsDefault, representComponents_eq, allSupportDefault_eq,
      List.length_map, List.all_map]
    congr 1
    rw [Bool.eq_iff_iff, List.all_eq_true, List.all_eq_true]
    constructor
    · intro h c hc
      rw [← ih c hc]
      exact h c hc
    · intro h c hc
      simp [ih c hc, h c hc]

end TypeDescriptor

/-! ## Bindings under another policy -/

/-- An input with its type represented as a policy has it. -/
def Argument.represent (policy : TypePolicy) (a : Argument) : Argument :=
  { a with type := a.type.represent policy }

/-- The deploy operation with its types represented as a policy has it. -/
def Deployment.represent (policy : TypePolicy) (d : Deployment) : Deployment :=
  { d with inputs := d.inputs.map (Argument.represent policy) }

/-- A method with its types represented as a policy has it. -/
def Method.represent (policy : TypePolicy) (m : Method) : Method :=
  { m with
    inputs := m.inputs.map (Argument.represent policy)
    outputs := m.outputs.map (TypeDescriptor.represent policy) }

/-- A field with its type represented as a policy has it. -/
def Field.represent (policy : TypePolicy) (f : Field) : Field :=
  { f with type := f.type.represent policy }

/-- The binding of an event with its types represented as a policy has it. -/
def EventBinding.represent (policy : TypePolicy) (e : EventBinding) : EventBinding :=
  { e with fields := e.fields.map (Field.represent policy) }

/-- The same bindings for another policy and other code. -/
def ContractBindings.represent (policy : TypePolicy) (code : Bytecode) (b : ContractBindings) :
    ContractBindings :=
  { b with
    code := code
    policy := policy
    deployment := b.deployment.represent policy
    methods := b.methods.map (Method.represent policy)
    events := b.events.map (EventBinding.represent policy) }

/-! ## Stages under another policy -/

variable {location : Location} (before after : TypePolicy)

/-- A parameter is described under another policy by the descriptor that represents its own. -/
theorem describe_represent (p : Parameter) : describe after location p =
    (describe before location p).map (TypeDescriptor.represent after) := by
  unfold describe
  cases p.paramType with
  | error error => rfl
  | ok type => simp [Except.map]

/-- So are parameters. -/
theorem describeAll_represent (parameters : List Parameter) :
    describeAll after location parameters =
      (describeAll before location parameters).map
        (List.map (TypeDescriptor.represent after)) := by
  rw [describeAll_eq_mapM, describeAll_eq_mapM]
  exact mapM_eq_map_mapM (describe_represent before after) parameters

/-- The arguments under another policy are those that represent the ones before. -/
theorem arguments_represent (reserved : List String) (parameters : List Parameter) :
    arguments after location reserved parameters =
      (arguments before location reserved parameters).map
        (List.map (Argument.represent after)) := by
  apply bind_eq_map_bind (describeAll_represent before after parameters)
  intro types
  simp [Except.map, List.map_zipWith, List.zipWith_map_right, Argument.represent]

/-- So is the deploy operation. -/
theorem deployment_represent (abi : Interface) :
    deployment after abi = (deployment before abi).map (Deployment.represent after) := by
  unfold deployment
  cases abi.constructor? with
  | none => rfl
  | some e =>
    apply bind_eq_map_bind (arguments_represent before after deployNames e.inputs)
    intro inputs
    rfl

/-- The name of a method and whether it can be written do not depend on the policy. -/
theorem method_represent (r : Naming.Resolved) :
    method after r = (method before r).map (Method.represent after) := by
  apply bind_eq_map_bind (arguments_represent before after [] r.entry.inputs)
  intro inputs
  apply bind_eq_map_bind (describeAll_represent before after r.entry.outputs)
  intro outputs
  split <;> rfl

/-- So are the methods. -/
theorem methods_represent (functions : List Naming.Resolved) :
    methods after functions =
      (methods before functions).map (List.map (Method.represent after)) := by
  rw [methods_eq_mapM, methods_eq_mapM]
  exact mapM_eq_map_mapM (method_represent before after) functions

/-- So are the fields of an event. -/
theorem fields_represent (names : List String) (parameters : List Parameter)
    (types : List ParamType) :
    fields after location names parameters types =
      (fields before location names parameters types).map (List.map (Field.represent after)) := by
  induction names generalizing parameters types with
  | nil => rfl
  | cons name names ih =>
    cases parameters with
    | nil => rfl
    | cons p parameters =>
      cases types with
      | nil => rfl
      | cons type types =>
        apply bind_eq_map_bind (describe_represent before after p)
        intro descriptor
        apply bind_eq_map_bind (ih parameters types)
        intro rest
        rfl

/-- So is the binding of an event. -/
theorem event_represent (r : Naming.Resolved) :
    event after r = (event before r).map (EventBinding.represent after) := by
  apply bind_eq_map_bind (fields_represent before after _ r.entry.inputs r.types)
  intro fields
  rfl

/-- So are the bindings of events. -/
theorem events_represent (named : List Naming.Resolved) :
    events after named = (events before named).map (List.map (EventBinding.represent after)) := by
  rw [events_eq_mapM, events_eq_mapM]
  exact mapM_eq_map_mapM (event_represent before after) named

/-- Generation for another policy and other code fails as before, or gives the bindings before with
that code and with all integers represented anew. -/
theorem generate_represent (settings : Settings) (name : String) (abi : Interface)
    (code code' : Bytecode) :
    generate { settings with policy := after } name abi code' =
      (generate { settings with policy := before } name abi code).map
        (ContractBindings.represent after code') := by
  -- neither the settings nor the names of the members are chosen by the policy
  have hsetup : Settings.setup { settings with policy := after } name =
      (Settings.setup { settings with policy := before } name).map id := eq_map_id _
  apply bind_eq_map_bind hsetup
  intro setup
  apply bind_eq_map_bind (eq_map_id _)
  intro functions
  apply bind_eq_map_bind (eq_map_id _)
  intro named
  apply bind_eq_map_bind (deployment_represent before after abi)
  intro d
  apply bind_eq_map_bind (methods_represent before after functions)
  intro ms
  apply bind_eq_map_bind (events_represent before after named)
  intro es
  rfl

/-! ## What two runs agree in -/

/-- Whether two types are the same but for the representation of integers; so they both have a
default value or neither has. -/
structure TypesAgree (type other : TypeDescriptor) : Prop where
  erased : type.erased = other.erased
  supportsDefault : type.supportsDefault = other.supportsDefault

/-- Whether two inputs have the same name and agreeing types. -/
structure ArgumentsAgree (a other : Argument) : Prop where
  name : a.name = other.name
  type : TypesAgree a.type other.type

/-- Whether members do the same: deploy operations may differ in whether there is code, everything
else has to be equal. -/
def KindsAgree : MemberKind → MemberKind → Prop
  | .deploy _, .deploy _ => True
  | kind, other => kind = other

/-- Whether two members are the same but for the representation of integers and the code. -/
structure MembersAgree (m other : Member) : Prop where
  identifier : m.identifier = other.identifier
  signature : m.signature = other.signature
  kind : KindsAgree m.kind other.kind
  inputs : List.Forall₂ ArgumentsAgree m.inputs other.inputs
  outputs : List.Forall₂ TypesAgree m.outputs other.outputs

/-- Whether two bindings agree in all that can be asked of them but policy, code and representation
of integers. -/
structure BindingsAgree (b other : ContractBindings) : Prop where
  package : b.package = other.package
  contractName : b.contractName = other.contractName
  moduleName : b.moduleName = other.moduleName
  relativePath : b.relativePath = other.relativePath
  members : List.Forall₂ MembersAgree b.members other.members
  derives : b.events.map (fun e => e.derives b.setup.derives) =
    other.events.map fun e => e.derives other.setup.derives

/-- Whether the deploy operation tells whether there is code. -/
def DeployTells (code : Bytecode) (b : ContractBindings) : Prop :=
  ∀ m ∈ b.members, ∀ provided, m.kind = .deploy provided →
    (provided ↔ ∃ text, code.text = some text)

variable {before} {after : TypePolicy}

/-- A type agrees with what represents it. -/
theorem typesAgree_represent (policy : TypePolicy) (type : TypeDescriptor) :
    TypesAgree type (type.represent policy) where
  erased := by simp [TypeDescriptor.erased]
  supportsDefault := by simp

/-- Arguments agree with those that represent them. -/
theorem argumentsAgree_represent (policy : TypePolicy) (inputs : List Argument) :
    List.Forall₂ ArgumentsAgree inputs (inputs.map (Argument.represent policy)) := by
  rw [List.forall₂_map_right_iff, List.forall₂_same]
  intro a _
  exact ⟨rfl, typesAgree_represent policy a.type⟩

/-- The member of a method agrees with the one that represents it. -/
theorem membersAgree_method (policy : TypePolicy) (m : Method) :
    MembersAgree m.member (m.represent policy).member where
  identifier := rfl
  signature := rfl
  kind := rfl
  inputs := argumentsAgree_represent policy m.inputs
  outputs := by
    show List.Forall₂ TypesAgree m.outputs (m.outputs.map (TypeDescriptor.represent policy))
    rw [List.forall₂_map_right_iff, List.forall₂_same]
    intro type _
    exact typesAgree_represent policy type

/-- The indexed fields stay indexed. -/
theorem indexedFields_represent (policy : TypePolicy) (e : EventBinding) :
    (e.represent policy).indexedFields = e.indexedFields.map (Field.represent policy) := by
  simp only [EventBinding.indexedFields, EventBinding.represent, List.filter_map]
  rfl

/-- The member of an event agrees with the one that represents it. -/
theorem membersAgree_event (policy : TypePolicy) (e : EventBinding) :
    MembersAgree e.member (e.represent policy).member where
  identifier := rfl
  signature := rfl
  kind := by
    show MemberKind.event _ _ = MemberKind.event _ _
    rw [indexedFields_represent, List.map_map]
    rfl
  inputs := by
    have hfields : (e.represent policy).member.inputs =
        e.member.inputs.map (Argument.represent policy) := by
      simp [EventBinding.member, EventBinding.represent, Field.represent, Argument.represent]
    rw [hfields]
    exact argumentsAgree_represent policy e.member.inputs
  outputs := .nil

/-- Which traits an event derives does not depend on how integers are represented. -/
theorem derives_represent (policy : TypePolicy) (e : EventBinding)
    (further : List (List Code.Token)) :
    (e.represent policy).derives further = e.derives further := by
  have hdefault : (e.represent policy).supportsDefault = e.supportsDefault := by
    simp [EventBinding.supportsDefault, EventBinding.represent, Field.represent,
      Function.comp_def]
  rw [EventBinding.derives, EventBinding.derives, hdefault]

/-- The members agree with those that represent them, one by one. -/
theorem membersAgree_represent (policy : TypePolicy) (code : Bytecode) (b : ContractBindings) :
    List.Forall₂ MembersAgree b.members (b.represent policy code).members := by
  have hdeploy : MembersAgree (b.deployment.member b.code)
      ((b.deployment.represent policy).member code) :=
    ⟨rfl, rfl, trivial, argumentsAgree_represent policy b.deployment.inputs, .nil⟩
  have hmethods : List.Forall₂ MembersAgree (b.methods.map Method.member)
      ((b.methods.map (Method.represent policy)).map Method.member) := by
    simp only [List.map_map, List.forall₂_map_left_iff, List.forall₂_map_right_iff,
      List.forall₂_same]
    intro m _
    exact membersAgree_method policy m
  have hevents : List.Forall₂ MembersAgree (b.events.map EventBinding.member)
      ((b.events.map (EventBinding.represent policy)).map EventBinding.member) := by
    simp only [List.map_map, List.forall₂_map_left_iff, List.forall₂_map_right_iff,
      List.forall₂_same]
    intro e _
    exact membersAgree_event policy e
  exact .cons hdeploy (List.rel_append hmethods hevents)

/-- Bindings agree with those that represent them. -/
theorem bindingsAgree_represent (policy : TypePolicy) (code : Bytecode) (b : ContractBindings) :
    BindingsAgree b (b.represent policy code) where
  package := rfl
  contractName := rfl
  moduleName := rfl
  relativePath := rfl
  members := membersAgree_represent policy code b
  derives := by
    simp only [ContractBindings.represent, List.map_map]
    apply List.map_congr_left
    intro e _
    exact (derives_represent policy e b.setup.derives).symm

/-- The deploy operation of all bindings tells whether they hold code. -/
theorem deployTells (b : ContractBindings) : DeployTells b.code b := by
  intro m hm provided hkind
  rcases List.mem_cons.1 hm with rfl | hm
  · have hprovided : (!b.code.isNotProvided) = provided := by
      simpa [Deployment.member] using hkind
    rw [← hprovided, Bytecode.isNotProvided]
    cases b.code.text <;> simp
  · rcases List.mem_append.1 hm with hm | hm
    · obtain ⟨method, -, rfl⟩ := List.mem_map.1 hm
      cases hkind
    · obtain ⟨e, -, rfl⟩ := List.mem_map.1 hm
      cases hkind

/-- Type policy and code influence what they name and nothing else. Two runs that differ in them
fail with the same error, or both succeed; then the second bindings are the first with the other
code and with all integers represented anew, so that everything else that can be asked of them is
equal, and the deploy operation of either tells whether its run was given code. -/
theorem generate_agrees_across_policies (settings : Settings) (name : String) (abi : Interface)
    (before after : TypePolicy) (code code' : Bytecode) :
    (∃ error,
      generate { settings with policy := before } name abi code = .error error ∧
      generate { settings with policy := after } name abi code' = .error error) ∨
    ∃ b b',
      generate { settings with policy := before } name abi code = .ok b ∧
      generate { settings with policy := after } name abi code' = .ok b' ∧
      BindingsAgree b b' ∧ b' = b.represent after code' ∧
      DeployTells code b ∧ DeployTells code' b' := by
  have hafter := generate_represent before after settings name abi code code'
  cases hbefore : generate { settings with policy := before } name abi code with
  | error error =>
    rw [hbefore] at hafter
    exact Or.inl ⟨error, rfl, hafter⟩
  | ok b =>
    rw [hbefore] at hafter
    have hcode : b.code = code := by
      obtain ⟨setup, d, ms, es, -, -, -, -, -, rfl⟩ := generate_eq_ok hbefore
      rfl
    have htells := deployTells b
    rw [hcode] at htells
    exact Or.inr ⟨b, b.represent after code', rfl, hafter, bindingsAgree_represent after code' b,
      rfl, htells, deployTells (b.represent after code')⟩

end AbiBindings.Bindings
