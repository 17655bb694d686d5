import Mathlib.Data.List.Basic
import AbiBindings.Naming.Overload

/-!
# The shape of a type

A type is elementary, an array or a tuple. `ParamType.shapeInduction` follows that shape, with the
induction hypothesis for a tuple at each of its components. `ParamType.unnamed` keeps of a type what
its texts show: everything but the names of components.
-/

set_option autoImplicit false

namespace AbiBindings.Abi.ParamType

/-- Whether a type is made of no other types. -/
def isElementary : ParamType → Bool
  | array _ => false
  | fixedArray _ _ => false
  | tuple _ => false
  | _ => true

/-- What holds of elementary types and is handed on to arrays and tuples holds of every type. -/
@[elab_as_elim]
theorem shapeInduction {motive : ParamType → Prop}
    (elementary : ∀ type, type.isElementary → motive type)
    (array : ∀ element, motive element → motive (.array element))
    (fixedArray : ∀ element length, motive element → motive (.fixedArray element length))
    (tuple : ∀ components, (∀ c ∈ components, motive c.2) → motive (.tuple components))
    (type : ParamType) : motive type :=
  -- the recursor of the nested type: components are visited as lists and as pairs
  @ParamType.rec motive (fun components => ∀ c ∈ components, motive c.2) (fun c => motive c.2)
    (elementary _ rfl) (elementary _ rfl) (elementary _ rfl) (elementary _ rfl)
    (fun _ => elementary _ rfl) (fun _ => elementary _ rfl) (fun _ => elementary _ rfl)
    array fixedArray tuple
    (by simp) (fun _ _ head tail => List.forall_mem_cons.2 ⟨head, tail⟩) (fun _ _ type => type)
    type

mutual

/-- A type without the names of its components, at any depth. -/
def unnamed : ParamType → ParamType
  | array element => .array element.unnamed
  | fixedArray element length => .fixedArray element.unnamed length
  | tuple components => .tuple (unnamedComponents components)
  | type => type

/-- Components without their names. -/
def unnamedComponents : List (String × ParamType) → List (String × ParamType)
  | [] => []
  | (_, type) :: rest => ("", type.unnamed) :: unnamedComponents rest

end

/-- A list of types as the components of a tuple without names. -/
def asComponents (types : List ParamType) : List (String × ParamType) :=
  types.map fun type => ("", type)

/-- Components lose their names one by one. -/
theorem unnamedComponents_eq (components : List (String × ParamType)) :
    unnamedComponents components = asComponents (components.map fun c => c.2.unnamed) := by
  induction components with
  | nil => rfl
  | cons c rest ih => simp [unnamedComponents, asComponents, ih]

/-- An elementary type has no names. -/
theorem unnamed_of_isElementary {type : ParamType} (h : type.isElementary) :
    type.unnamed = type := by
  cases type <;> first | rfl | simp [isElementary] at h

/-- The canonical texts of components are those of each component. -/
theorem canonicalComponents_eq (components : List (String × ParamType)) :
    canonicalComponents components = components.map fun c => c.2.canonical := by
  induction components with
  | nil => rfl
  | cons c rest ih => simp [canonicalComponents, ih]

/-- The components of a list of types are those types. -/
@[simp]
theorem map_snd_asComponents {α : Type} (types : List ParamType) (f : ParamType → α) :
    (asComponents types).map (fun c => f c.2) = types.map f := by
  simp [asComponents]

/-- The names of components do not show in a canonical text. -/
theorem canonical_unnamed (type : ParamType) : type.unnamed.canonical = type.canonical := by
  induction type using shapeInduction with
  | elementary type h => rw [unnamed_of_isElementary h]
  | array element ih => rw [unnamed, canonical, canonical, ih]
  | fixedArray element length ih => rw [unnamed, canonical, canonical, ih]
  | tuple components ih =>
    have hcomponents : components.map (fun c => c.2.unnamed.canonical) =
        components.map fun c => c.2.canonical := List.map_congr_left ih
    rw [unnamed, unnamedComponents_eq, canonical, canonical, canonicalComponents_eq,
      canonicalComponents_eq, map_snd_asComponents, List.map_map]
    exact congrArg (fun texts => "(" ++ Text.join "," texts ++ ")") hcomponents

/-- Types are told from the components that they are made to. -/
theorem asComponents_injective : Function.Injective asComponents := by
  intro types others h
  have h' := congrArg (List.map fun c => id c.2) h
  simpa only [map_snd_asComponents, List.map_id] using h'

/-- The canonical text of a list of types is that of a tuple. -/
theorem canonicalTuple_eq (types : List ParamType) :
    canonicalTuple types = canonical (.tuple (asComponents types)) := by
  rw [canonicalTuple, canonical, canonicalComponents_eq, map_snd_asComponents]

end AbiBindings.Abi.ParamType

namespace AbiBindings.Naming

open Abi

/-- The suffixes of components are those of each component. -/
theorem componentSuffixes_eq (components : List (String × ParamType)) :
    componentSuffixes components = components.map fun c => typeSuffix c.2 := by
  induction components with
  | nil => rfl
  | cons c rest ih => simp [componentSuffixes, ih]

/-- The suffix of an elementary type is its canonical text. -/
theorem typeSuffix_of_isElementary {type : ParamType} (h : type.isElementary) :
    typeSuffix type = type.canonical := by
  cases type <;> first | rfl | simp [ParamType.isElementary] at h

end AbiBindings.Naming
