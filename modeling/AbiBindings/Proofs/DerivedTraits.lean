import AbiBindings.Proofs.EventFilters
import AbiBindings.Proofs.TypeMapping

/-!
# Derived traits

The type of an event derives standard traits, which takes that the types of all its fields implement
them. A default value is asked for only where the types have one, the other traits are always
derived. Every type can be cloned, but tuples of more than 12 components are neither shown nor
compared, and nothing looks out for them. So all traits are available exactly if no input holds such
a tuple (`derived_traits_available_iff`).
-/

set_option autoImplicit false

namespace AbiBindings.Bindings

open Abi Code Traversal

/-! ## Types and traits of the standard library -/

/-- The types that generated code writes: types with a name of their own, vectors, arrays of a fixed
length, and tuples. -/
inductive CodeType where
  | named (tokens : List Token)
  | vector (element : CodeType)
  | sequence (element : CodeType) (length : Nat)
  | tuple (components : List CodeType)

namespace CodeType

mutual

/-- The tokens of a type. -/
def tokens : CodeType → List Token
  | named tokens => tokens
  | vector element => generic (phrase ":: std :: vec :: Vec") element.tokens
  | sequence element length => [square (element.tokens ++ [.mark ';' false, numberLiteral length])]
  | tuple components => [round (commaTerminated (listTokens components))]

/-- The tokens of each type of a list. -/
def listTokens : List CodeType → List (List Token)
  | [] => []
  | type :: rest => type.tokens :: listTokens rest

end

mutual

/-- The type that is written for a type of the bindings. -/
def of : TypeDescriptor → CodeType
  | .bytes => vector (named (phrase "u8"))
  | .fixedBytes size => sequence (named (phrase "u8")) size
  | .array element (some length) => sequence (of element) length
  | .array element none => vector (of element)
  | .tuple components => tuple (ofComponents components)
  | type => named (typeTokens type)

/-- The types that are written for the components of a tuple. -/
def ofComponents : List (String × TypeDescriptor) → List CodeType
  | [] => []
  | (_, type) :: rest => of type :: ofComponents rest

end

/-- The types of components are those of each component. -/
theorem ofComponents_eq (components : List (String × TypeDescriptor)) :
    ofComponents components = components.map fun c => of c.2 := by
  induction components with
  | nil => rfl
  | cons c rest ih => simp [ofComponents, ih]

/-- The code of types is that of each type. -/
theorem listTokens_eq (types : List CodeType) : listTokens types = types.map tokens := by
  induction types with
  | nil => rfl
  | cons type rest ih => simp [listTokens, ih]

end CodeType

/-- The standard traits that the type of an event derives. -/
inductive StandardTrait where
  | clone
  | debug
  | default
  | eq
  | partialEq
  deriving DecidableEq

/-- The name of a trait. -/
def StandardTrait.name : StandardTrait → String
  | clone => "Clone"
  | debug => "Debug"
  | default => "Default"
  | eq => "Eq"
  | partialEq => "PartialEq"

/-- Whether a type implements a trait. Named types implement all of them, vectors always have a
default value, arrays up to a length of 32, and tuples implement all traits but `Clone` only up to
12 components. -/
inductive Implements (trait : StandardTrait) : CodeType → Prop
  | named (tokens : List Token) : Implements trait (.named tokens)
  | vector (element : CodeType) (helement : trait ≠ .default → Implements trait element) :
    Implements trait (.vector element)
  | sequence (element : CodeType) (length : Nat) (helement : Implements trait element)
    (hlength : trait = .default → length ≤ 32) : Implements trait (.sequence element length)
  | tuple (components : List CodeType) (hcomponents : ∀ c ∈ components, Implements trait c)
    (harity : trait ≠ .clone → components.length ≤ 12) : Implements trait (.tuple components)

namespace Implements

variable {trait : StandardTrait}

/-- A vector implements what its element does, and a default value in any case. -/
theorem vector_iff {element : CodeType} :
    Implements trait (.vector element) ↔ (trait ≠ .default → Implements trait element) := by
  constructor
  · rintro (_ | ⟨_, helement⟩)
    exact helement
  · exact vector element

/-- An array of fixed length implements what its element does, and a default value only if it is
short. -/
theorem sequence_iff {element : CodeType} {length : Nat} :
    Implements trait (.sequence element length) ↔
      Implements trait element ∧ (trait = .default → length ≤ 32) := by
  constructor
  · rintro (_ | _ | ⟨_, _, helement, hlength⟩)
    exact ⟨helement, hlength⟩
  · rintro ⟨helement, hlength⟩
    exact sequence element length helement hlength

/-- A tuple implements what all its components do; with many components it implements nothing but
clones. -/
theorem tuple_iff {components : List CodeType} :
    Implements trait (.tuple components) ↔
      (∀ c ∈ components, Implements trait c) ∧ (trait ≠ .clone → components.length ≤ 12) := by
  constructor
  · rintro (_ | _ | _ | ⟨_, hcomponents, harity⟩)
    exact ⟨hcomponents, harity⟩
  · rintro ⟨hcomponents, harity⟩
    exact tuple components hcomponents harity

end Implements

/-! ## Types of the bindings -/

namespace CodeType

/-- The code of components is that of each component. -/
theorem componentTokens_eq (components : List (String × TypeDescriptor)) :
    componentTokens components = components.map fun c => typeTokens c.2 := by
  induction components with
  | nil => rfl
  | cons c rest ih => simp [componentTokens, ih]

/-- What is written for a type of the bindings is the code of that type. -/
theorem tokens_of (type : TypeDescriptor) : (of type).tokens = typeTokens type := by
  induction type using TypeDescriptor.shapeInduction with
  | elementary type h =>
    cases type with
    | address | bool | string | bytes | fixedBytes _ | integer _ _ _ => rfl
    | array _ _ | tuple _ => simp [TypeDescriptor.isElementary] at h
  | array element length ih =>
    cases length with
    | none => rw [of, tokens, ih, typeTokens]
    | some length => rw [of, tokens, ih, typeTokens]
  | tuple components ih =>
    have hcomponents : components.map (fun c => (of c.2).tokens) =
        components.map fun c => typeTokens c.2 := List.map_congr_left ih
    have hlist : listTokens (ofComponents components) = componentTokens components := by
      rw [listTokens_eq, ofComponents_eq, List.map_map, componentTokens_eq]
      exact hcomponents
    rw [of, tokens, hlist, typeTokens]

end CodeType

/-- The type that is written for any type of the bindings can be cloned. -/
theorem implements_clone (type : TypeDescriptor) : Implements .clone (.of type) := by
  induction type using TypeDescriptor.shapeInduction with
  | elementary type h =>
    cases type with
    | address | bool | string | integer _ _ _ => exact .named _
    | bytes => exact .vector _ fun _ => .named _
    | fixedBytes size => exact .sequence _ _ (.named _) fun h => absurd h (by decide)
    | array _ _ | tuple _ => simp [TypeDescriptor.isElementary] at h
  | array element length ih =>
    cases length with
    | none => exact .vector _ fun _ => ih
    | some length => exact .sequence _ _ ih fun h => absurd h (by decide)
  | tuple components ih =>
    rw [CodeType.of, CodeType.ofComponents_eq]
    exact .tuple _ (List.forall_mem_map.2 ih) fun h => absurd rfl h

/-- The choice of the types that have a default value is right. -/
theorem implements_default_iff (type : TypeDescriptor) :
    Implements .default (.of type) ↔ type.supportsDefault := by
  induction type using TypeDescriptor.shapeInduction with
  | elementary type h =>
    cases type with
    | address | bool | string | integer _ _ _ => exact iff_of_true (.named _) rfl
    | bytes => exact iff_of_true (.vector _ fun h => absurd rfl h) rfl
    | fixedBytes size =>
      rw [CodeType.of, Implements.sequence_iff, TypeDescriptor.supportsDefault, decide_eq_true_eq]
      exact ⟨fun h => h.2 rfl, fun h => ⟨.named _, fun _ => h⟩⟩
    | array _ _ | tuple _ => simp [TypeDescriptor.isElementary] at h
  | array element length ih =>
    cases length with
    | none => exact iff_of_true (.vector _ fun h => absurd rfl h) rfl
    | some length =>
      rw [CodeType.of, Implements.sequence_iff, ih, TypeDescriptor.supportsDefault,
        Bool.and_eq_true, decide_eq_true_eq]
      exact ⟨fun h => ⟨h.2 rfl, h.1⟩, fun h => ⟨h.2, fun _ => h.1⟩⟩
  | tuple components ih =>
    rw [CodeType.of, CodeType.ofComponents_eq, Implements.tuple_iff, List.forall_mem_map,
      List.length_map, TypeDescriptor.supportsDefault, TypeDescriptor.allSupportDefault_eq,
      Bool.and_eq_true, decide_eq_true_eq, List.all_eq_true]
    constructor
    · rintro ⟨hcomponents, harity⟩
      exact ⟨harity (by decide), fun c hc => (ih c hc).1 (hcomponents c hc)⟩
    · rintro ⟨harity, hcomponents⟩
      exact ⟨fun c hc => (ih c hc).2 (hcomponents c hc), fun _ => harity⟩

/-- The other traits fail at large tuples alone, at whatever depth. -/
theorem implements_iff_of_parts {trait : StandardTrait} (hclone : trait ≠ .clone)
    (hdefault : trait ≠ .default) (type : TypeDescriptor) :
    Implements trait (.of type) ↔
      ∀ components, .tuple components ∈ type.parts → components.length ≤ 12 := by
  induction type using TypeDescriptor.shapeInduction with
  | elementary type h =>
    cases type with
    | address | bool | string | integer _ _ _ =>
      exact iff_of_true (.named _) (by simp [TypeDescriptor.parts])
    | bytes =>
      exact iff_of_true (.vector _ fun _ => .named _) (by simp [TypeDescriptor.parts])
    | fixedBytes size =>
      exact iff_of_true (.sequence _ _ (.named _) fun h => absurd h hdefault)
        (by simp [TypeDescriptor.parts])
    | array _ _ | tuple _ => simp [TypeDescriptor.isElementary] at h
  | array element length ih =>
    have hparts : (∀ components, .tuple components ∈ (TypeDescriptor.array element length).parts →
        components.length ≤ 12) ↔
          ∀ components, .tuple components ∈ element.parts → components.length ≤ 12 := by
      simp [TypeDescriptor.parts]
    rw [hparts, ← ih]
    cases length with
    | none =>
      rw [CodeType.of, Implements.vector_iff]
      exact ⟨fun h => h hdefault, fun h _ => h⟩
    | some length =>
      rw [CodeType.of, Implements.sequence_iff]
      exact ⟨fun h => h.1, fun h => ⟨h, fun hd => absurd hd hdefault⟩⟩
  | tuple components ih =>
    have hparts : (∀ others, .tuple others ∈ (TypeDescriptor.tuple components).parts →
        others.length ≤ 12) ↔ components.length ≤ 12 ∧
          ∀ c ∈ components, ∀ others, .tuple others ∈ c.2.parts → others.length ≤ 12 := by
      simp only [TypeDescriptor.parts, TypeDescriptor.componentParts_eq, List.mem_cons,
        TypeDescriptor.tuple.injEq, List.mem_flatMap]
      constructor
      · intro h
        exact ⟨h components (Or.inl rfl),
          fun c hc others hothers => h others (Or.inr ⟨c, hc, hothers⟩)⟩
      · rintro ⟨harity, hcomponents⟩ others (rfl | ⟨c, hc, hothers⟩)
        · exact harity
        · exact hcomponents c hc others hothers
    rw [hparts, CodeType.of, CodeType.ofComponents_eq, Implements.tuple_iff, List.forall_mem_map,
      List.length_map]
    constructor
    · rintro ⟨hcomponents, harity⟩
      exact ⟨harity hclone, fun c hc => (ih c hc).1 (hcomponents c hc)⟩
    · rintro ⟨harity, hcomponents⟩
      exact ⟨fun c hc => (ih c hc).2 (hcomponents c hc), fun _ => harity⟩

/-! ## Events -/

/-- The traits in the first attribute that derives some. -/
def derivedTraits? : List Token → Option (List Token)
  | [] => none
  | .mark '#' _ :: .group .square [.word "derive", .group .round traits] :: _ => some traits
  | _ :: rest => derivedTraits? rest

/-- Whether the types of all inputs implement a trait. -/
def Available (trait : StandardTrait) (inputs : List Argument) : Prop :=
  ∀ a ∈ inputs, Implements trait (.of a.type)

/-- Whether a tuple of more than 12 components is a part of the type of a parameter. -/
def HoldsLargeTuple (p : Parameter) : Prop :=
  ∃ type components, p.paramType = .ok type ∧ .tuple components ∈ type.parts ∧
    12 < components.length

/-- Whether the type of an event derives the given standard traits, and then the further ones, and
whether its fields implement them. -/
structure DerivesTraits (further : List (List Token)) (e : Entry) (binding : EventBinding)
    (traits : List StandardTrait) : Prop where
  derived : derivedTraits? (binding.typeDefinition further) =
    some (commaSeparated (traits.map (fun t => [nameToken t.name]) ++ further))
  fields : declaredType? (binding.typeDefinition further) =
    some (binding.identifier, declaredFields e.inputs binding.member.inputs)
  listed : ∀ trait, trait ∈ traits ↔
    (trait = .default → Available .default binding.member.inputs)
  clone : Available .clone binding.member.inputs
  available : (∀ trait ∈ traits, Available trait binding.member.inputs) ↔
    ∀ p ∈ e.inputs, ¬ HoldsLargeTuple p

variable {policy : TypePolicy}

/-- Only a tuple is mapped to a tuple, and to one with as many components. -/
theorem tuple_of_ofType_eq_tuple {type : ParamType} {components : List (String × TypeDescriptor)}
    (h : TypeDescriptor.ofType policy type = .tuple components) :
    ∃ others, type = .tuple others ∧ components.length = others.length := by
  cases type with
  | tuple others =>
    obtain rfl := TypeDescriptor.tuple.inj h
    exact ⟨others, rfl, by rw [TypeDescriptor.ofComponents_eq, List.length_map]⟩
  | address | bool | string | bytes => cases h
  | fixedBytes _ | uint _ | int _ | array _ | fixedArray _ _ => cases h

/-- The tuples in the type of a field are those in the type of its input. -/
theorem not_holdsLargeTuple_iff {p : Parameter} {descriptor : TypeDescriptor}
    (h : Describes policy p descriptor) : ¬ HoldsLargeTuple p ↔
      ∀ components, .tuple components ∈ descriptor.parts → components.length ≤ 12 := by
  obtain ⟨type, htype, rfl⟩ := h
  rw [TypeDescriptor.parts_ofType]
  constructor
  · intro hnone components hcomponents
    obtain ⟨part, hpart, heq⟩ := List.mem_map.1 hcomponents
    obtain ⟨others, rfl, hlength⟩ := tuple_of_ofType_eq_tuple heq
    rw [hlength]
    exact Nat.le_of_not_lt fun hlt => hnone ⟨type, others, htype, hpart, hlt⟩
  · rintro hsmall ⟨type', components, htype', hcomponents, hlt⟩
    obtain rfl : type = type' := Except.ok.inj (htype.symm.trans htype')
    have hle := hsmall _ (List.mem_map_of_mem hcomponents)
    rw [TypeDescriptor.ofComponents_eq, List.length_map] at hle
    omega

/-- All elements of one list are as asked for if those that they are related to are. -/
theorem forall_mem_iff_of_forall₂ {α β : Type} {P : α → Prop} {Q : β → Prop} {l : List α}
    {l' : List β} (h : List.Forall₂ (fun a b => P a ↔ Q b) l l') :
    (∀ a ∈ l, P a) ↔ ∀ b ∈ l', Q b := by
  induction h with
  | nil => simp
  | cons hab _ ih => rw [List.forall_mem_cons, List.forall_mem_cons, hab, ih]

/-- A trait other than clones and default values is available exactly if no input holds a large
tuple. -/
theorem available_iff {trait : StandardTrait} {parameters : List Parameter}
    {inputs : List Argument} (hclone : trait ≠ .clone) (hdefault : trait ≠ .default)
    (h : List.Forall₂ (fun p a => Describes policy p a.type) parameters inputs) :
    Available trait inputs ↔ ∀ p ∈ parameters, ¬ HoldsLargeTuple p := by
  refine (forall_mem_iff_of_forall₂ (h.imp fun p a hdescribes => ?_)).symm
  rw [not_holdsLargeTuple_iff hdescribes, implements_iff_of_parts hclone hdefault]

/-- Default values are derived exactly if all inputs implement them. -/
theorem supportsDefault_iff (binding : EventBinding) :
    binding.supportsDefault ↔ Available .default binding.member.inputs := by
  unfold EventBinding.supportsDefault Available
  rw [List.all_eq_true, EventBinding.member, List.forall_mem_map]
  simp only [implements_default_iff]

/-- The standard traits that the type of an event derives. -/
def EventBinding.standardTraits (e : EventBinding) : List StandardTrait :=
  [.clone, .debug] ++ (if e.supportsDefault then [.default] else []) ++ [.eq, .partialEq]

/-- All traits but that of default values are always derived. -/
theorem mem_standardTraits_iff {binding : EventBinding} {trait : StandardTrait} :
    trait ∈ binding.standardTraits ↔
      (trait = .default → Available .default binding.member.inputs) := by
  rw [← supportsDefault_iff]
  unfold EventBinding.standardTraits
  cases binding.supportsDefault <;> cases trait <;> simp

/-- The derived traits are read back from the code of the type. -/
theorem derivedTraits?_typeDefinition (binding : EventBinding) (further : List (List Token)) :
    derivedTraits? (binding.typeDefinition further) = some (commaSeparated
      (binding.standardTraits.map (fun t => [nameToken t.name]) ++ further)) := by
  have htraits : (binding.derives further).map DerivedTrait.tokens =
      binding.standardTraits.map (fun t => [nameToken t.name]) ++ further := by
    have hfurther : (further.map DerivedTrait.custom).map DerivedTrait.tokens = further := by
      rw [List.map_map]
      exact List.map_id further
    rw [EventBinding.derives, List.map_append, hfurther]
    congr 1
    unfold EventBinding.standardTraits
    cases binding.supportsDefault <;> rfl
  rw [← htraits]
  rfl

/-- The type of an event derives the traits of its binding. -/
theorem derivesTraits_of_event {aliases : Naming.Aliases} {entries : List Entry} {e : Entry}
    {binding : EventBinding} (further : List (List Token)) (htyped : AllTyped e.inputs)
    (h : event policy (Naming.resolveOne aliases entries e e.types) = .ok binding) :
    DerivesTraits further e binding binding.standardTraits := by
  have hinputs := (isEventMember_of_event htyped h).inputs.types
  have hclone : Available .clone binding.member.inputs := fun a _ => implements_clone a.type
  refine ⟨derivedTraits?_typeDefinition binding further, declaredType?_of_event h further,
    fun trait => mem_standardTraits_iff, hclone, ?_⟩
  have hothers : ∀ trait : StandardTrait, trait ≠ .clone → trait ≠ .default →
      (Available trait binding.member.inputs ↔ ∀ p ∈ e.inputs, ¬ HoldsLargeTuple p) :=
    fun _ hclone hdefault => available_iff hclone hdefault hinputs
  constructor
  · intro havailable
    have hdebug : .debug ∈ binding.standardTraits :=
      mem_standardTraits_iff.2 fun h => absurd h (by decide)
    exact (hothers .debug (by decide) (by decide)).1 (havailable .debug hdebug)
  · intro hsmall trait htrait
    cases trait with
    | clone => exact hclone
    | default => exact mem_standardTraits_iff.1 htrait rfl
    | debug => exact (hothers .debug (by decide) (by decide)).2 hsmall
    | eq => exact (hothers .eq (by decide) (by decide)).2 hsmall
    | partialEq => exact (hothers .partialEq (by decide) (by decide)).2 hsmall

/-- The type of every event, which stands in the generated code, derives `Clone`, `Debug`, `Eq` and
`PartialEq`, and `Default` exactly if all its fields implement it. All of them implement `Clone`.
They implement all the standard traits that are derived exactly if no input of the event holds a
tuple of more than 12 components, at whatever depth and under either policy. -/
theorem derived_traits_available_iff {settings : Settings} {name : String} {abi : Interface}
    {code : Bytecode} {b : ContractBindings} (h : generate settings name abi code = .ok b) :
    List.Forall₂ (fun e binding => StandsIn (binding.typeDefinition b.setup.derives) b.tokens ∧
      ∃ traits, DerivesTraits b.setup.derives e binding traits) abi.events b.events ∧
    ∀ type, (CodeType.of type).tokens = typeTokens type := by
  refine ⟨?_, CodeType.tokens_of⟩
  obtain ⟨setup, d, ms, es, -, hprepared, -, -, hes, rfl⟩ := generate_eq_ok h
  rw [events_eq_mapM] at hes
  exact forall₂_of_candidates hprepared.eventInputs hes fun _ _ _ he htyped hevent =>
    ⟨typeDefinition_standsIn he, _, derivesTraits_of_event setup.derives htyped hevent⟩

/-- The results of a ballot, a list of tuples of a number of components. -/
def ballotResults (count : Nat) : Parameter :=
  ⟨"results", "tuple[]", List.replicate count ⟨"", "bool", [], false⟩, false⟩

/-- An event with results. -/
def ballotEvent (name : String) (count : Nat) : Entry :=
  ⟨.event, some name, [ballotResults count], [], .nonpayable, false⟩

/-- A ballot that is opened with tuples of 12 components and closed with tuples of 13. -/
def ballotInterface : Interface :=
  ⟨[ballotEvent "Opened" 12, ballotEvent "Closed" 13]⟩

/-- Of the events of a ballot, the one with the smaller tuples has all the traits that it derives.
-/
theorem derived_traits_available_iff_ballot :
    ∃ b opened closed, generate {} "Ballot" ballotInterface .notProvided = .ok b ∧
      b.events = [opened, closed] ∧
      (∃ traits, DerivesTraits b.setup.derives (ballotEvent "Opened" 12) opened traits ∧
        ∀ trait ∈ traits, Available trait opened.member.inputs) ∧
      ∃ traits, DerivesTraits b.setup.derives (ballotEvent "Closed" 13) closed traits ∧
        ¬ ∀ trait ∈ traits, Available trait closed.member.inputs := by
  have hgenerate : ∃ b, generate {} "Ballot" ballotInterface .notProvided = .ok b :=
    isOk_iff.1 (by decide +kernel)
  obtain ⟨b, hb⟩ := hgenerate
  obtain ⟨hderived, -⟩ := derived_traits_available_iff hb
  have hevents : ballotInterface.events = [ballotEvent "Opened" 12, ballotEvent "Closed" 13] := rfl
  rw [hevents] at hderived
  obtain ⟨opened, _, ⟨-, traits, hopened⟩, hrest, hbindings⟩ := List.forall₂_cons_left_iff.1 hderived
  obtain ⟨closed, _, ⟨-, traits', hclosed⟩, hnil, rfl⟩ := List.forall₂_cons_left_iff.1 hrest
  obtain rfl := List.forall₂_nil_left_iff.1 hnil
  refine ⟨b, opened, closed, hb, hbindings, ⟨traits, hopened, hopened.available.2 ?_⟩,
    traits', hclosed, mt hclosed.available.1 ?_⟩
  · have htype : (ballotResults 12).paramType =
        .ok (.array (.tuple (List.replicate 12 ("", .bool)))) := by
      with_unfolding_all rfl
    rintro p hp ⟨type, components, hp', hcomponents, hlt⟩
    obtain rfl := List.mem_singleton.1 hp
    obtain rfl := Except.ok.inj (htype.symm.trans hp')
    obtain rfl : components = List.replicate 12 ("", .bool) := by
      simpa [ParamType.parts, ParamType.componentParts_eq] using hcomponents
    exact absurd hlt (by decide)
  · have htype : (ballotResults 13).paramType =
        .ok (.array (.tuple (List.replicate 13 ("", .bool)))) := by
      with_unfolding_all rfl
    intro hsmall
    exact hsmall _ List.mem_cons_self ⟨_, _, htype, .tail _ (.head _), by decide⟩

end AbiBindings.Bindings
