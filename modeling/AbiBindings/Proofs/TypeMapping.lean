import Mathlib.Order.Bounds.Defs
import Mathlib.Tactic.IntervalCases
import AbiBindings.Proofs.TypeCode

/-!
# Nothing is lost when types are chosen

The type that is chosen for the generated code tells the type of the interface, names of components
included, under either policy (`toType_ofType`). It is chosen part by part (`parts_ofType`), so the
rule for a single integer holds at any depth. The code that is written for it tells everything but
the names of components if integers keep the width they declare.
-/

set_option autoImplicit false

/-! ## The parts of types -/

namespace AbiBindings.Abi.ParamType

mutual

/-- The types that a type is made of at any depth, itself first. -/
def parts : ParamType → List ParamType
  | array element => .array element :: element.parts
  | fixedArray element length => .fixedArray element length :: element.parts
  | tuple components => .tuple components :: componentParts components
  | type => [type]

/-- The types that the components of a tuple are made of. -/
def componentParts : List (String × ParamType) → List ParamType
  | [] => []
  | (_, type) :: rest => type.parts ++ componentParts rest

end

/-- The parts of components are those of each component. -/
theorem componentParts_eq (components : List (String × ParamType)) :
    componentParts components = components.flatMap fun c => c.2.parts := by
  induction components with
  | nil => rfl
  | cons c rest ih => simp [componentParts, ih]

end AbiBindings.Abi.ParamType

namespace AbiBindings.Bindings

open Abi

namespace TypeDescriptor

mutual

/-- The types that a type is made of at any depth, itself first. -/
def parts : TypeDescriptor → List TypeDescriptor
  | array element length => .array element length :: element.parts
  | tuple components => .tuple components :: componentParts components
  | type => [type]

/-- The types that the components of a tuple are made of. -/
def componentParts : List (String × TypeDescriptor) → List TypeDescriptor
  | [] => []
  | (_, type) :: rest => type.parts ++ componentParts rest

end

/-- The parts of components are those of each component. -/
theorem componentParts_eq (components : List (String × TypeDescriptor)) :
    componentParts components = components.flatMap fun c => c.2.parts := by
  induction components with
  | nil => rfl
  | cons c rest ih => simp [componentParts, ih]

/-- The parts of the type that is chosen are chosen for the parts. -/
theorem parts_ofType (policy : TypePolicy) (type : ParamType) :
    (ofType policy type).parts = type.parts.map (ofType policy) := by
  induction type using ParamType.shapeInduction with
  | elementary type h =>
    cases type with
    | address | bool | string | bytes | fixedBytes _ | uint _ | int _ => rfl
    | array _ | fixedArray _ _ | tuple _ => simp [ParamType.isElementary] at h
  | array element ih => rw [ofType, parts, ih, ParamType.parts, List.map_cons, ofType]
  | fixedArray element length ih => rw [ofType, parts, ih, ParamType.parts, List.map_cons, ofType]
  | tuple components ih =>
    have hcomponents : (ofComponents policy components).flatMap (fun c => c.2.parts) =
        (components.flatMap fun c => c.2.parts).map (ofType policy) := by
      rw [ofComponents_eq, List.flatMap_map, List.map_flatMap]
      exact List.flatMap_congr ih
    rw [ofType, parts, componentParts_eq, hcomponents, ParamType.parts, ParamType.componentParts_eq,
      List.map_cons, ofType]

/-! ## The type of the interface is found again -/

mutual

/-- The type of the interface that a type of the generated code stands for. -/
def toType : TypeDescriptor → ParamType
  | .address => .address
  | .bool => .bool
  | .string => .string
  | .bytes => .bytes
  | .fixedBytes size => .fixedBytes size
  | .integer false bits _ => .uint bits
  | .integer true bits _ => .int bits
  | .array element none => .array element.toType
  | .array element (some length) => .fixedArray element.toType length
  | .tuple components => .tuple (componentTypes components)

/-- The components of the interface that those of the generated code stand for. -/
def componentTypes : List (String × TypeDescriptor) → List (String × ParamType)
  | [] => []
  | (name, type) :: rest => (name, type.toType) :: componentTypes rest

end

/-- The types of components are those of each component. -/
theorem componentTypes_eq (components : List (String × TypeDescriptor)) :
    componentTypes components = components.map fun c => (c.1, c.2.toType) := by
  induction components with
  | nil => rfl
  | cons c rest ih => simp [componentTypes, ih]

/-- The type is read back from its descriptor, whatever the policy is. -/
theorem toType_ofType (policy : TypePolicy) (type : ParamType) :
    (ofType policy type).toType = type := by
  induction type using ParamType.shapeInduction with
  | elementary type h =>
    cases type with
    | address | bool | string | bytes | fixedBytes _ | uint _ | int _ => rfl
    | array _ | fixedArray _ _ | tuple _ => simp [ParamType.isElementary] at h
  | array element ih => rw [ofType, toType, ih]
  | fixedArray element length ih => rw [ofType, toType, ih]
  | tuple components ih =>
    have hcomponents : (ofComponents policy components).map (fun c => (c.1, c.2.toType)) =
        components.map id := by
      rw [ofComponents_eq, List.map_map]
      apply List.map_congr_left
      intro c hc
      simp [ih c hc]
    rw [ofType, toType, componentTypes_eq, hcomponents, List.map_id]

/-- Different types of the interface get different types of the generated code. -/
theorem ofType_injective (policy : TypePolicy) : Function.Injective (ofType policy) :=
  Function.LeftInverse.injective (toType_ofType policy)

end TypeDescriptor

/-! ## Integers -/

/-- Whether a representation of an integer is the native one: the least primitive that is as wide as
the integer declares, and a big integer if there is none. -/
structure IsNative (bits : Nat) (repr : IntegerRepr) : Prop where
  primitive : bits ≤ 128 → ∃ width, repr = .primitive width ∧
    IsLeast {w | w ∈ [8, 16, 32, 64, 128] ∧ bits ≤ w} width
  big : repr = .big ↔ 128 < bits

/-- The next power of two is one. -/
theorem exists_nextPowerOfTwo (n : Nat) : ∃ k, nextPowerOfTwo n = 2 ^ k := by
  unfold nextPowerOfTwo
  split
  · exact ⟨0, rfl⟩
  · exact ⟨_, rfl⟩

/-- The next power of two is the least that is not below the number. -/
theorem nextPowerOfTwo_le_iff {n k : Nat} : nextPowerOfTwo n ≤ 2 ^ k ↔ n ≤ 2 ^ k := by
  unfold nextPowerOfTwo
  have hpos : 0 < 2 ^ k := Nat.two_pow_pos k
  split
  · omega
  · rename_i hn
    have hlog : (n - 1).log2 < k ↔ n - 1 < 2 ^ k := Nat.log2_lt (by omega)
    rw [Nat.pow_eq, Nat.pow_le_pow_iff_right (by decide), Nat.add_one_le_iff, hlog]
    omega

/-- Up to the limit the next power of two, but eight at least, is the least width of a primitive
that is wide enough. -/
theorem isLeast_width {bits : Nat} (h : bits ≤ 128) :
    IsLeast {w | w ∈ [8, 16, 32, 64, 128] ∧ bits ≤ w} (max (nextPowerOfTwo bits) 8) := by
  obtain ⟨k, hk⟩ := exists_nextPowerOfTwo bits
  have hle : nextPowerOfTwo bits ≤ 2 ^ 7 := nextPowerOfTwo_le_iff.2 h
  have hbits : bits ≤ nextPowerOfTwo bits := by
    rw [hk, ← nextPowerOfTwo_le_iff, hk]
  constructor
  · rw [hk] at hle hbits ⊢
    have hexponent : k ≤ 7 := (Nat.pow_le_pow_iff_right (by decide)).1 hle
    refine ⟨?_, le_trans hbits (le_max_left _ _)⟩
    interval_cases k <;> decide
  · rintro w ⟨hw, hwide⟩
    have hpower : ∃ k, w = 2 ^ (k + 3) := by
      simp only [List.mem_cons, List.not_mem_nil, or_false] at hw
      rcases hw with rfl | rfl | rfl | rfl | rfl
      · exact ⟨0, rfl⟩
      · exact ⟨1, rfl⟩
      · exact ⟨2, rfl⟩
      · exact ⟨3, rfl⟩
      · exact ⟨4, rfl⟩
    obtain ⟨k, rfl⟩ := hpower
    have height : 2 ^ 3 ≤ 2 ^ (k + 3) := Nat.pow_le_pow_right (by decide) (by omega)
    exact max_le (nextPowerOfTwo_le_iff.2 hwide) height

/-- The representation that the native policy chooses is the one that it promises. -/
theorem isNative_choose (bits : Nat) : IsNative bits (.choose .native bits) := by
  unfold IntegerRepr.choose
  dsimp only
  split
  · rename_i hbits
    have hnot : ¬ 128 < bits := Nat.not_lt.2 hbits
    exact ⟨fun h => ⟨_, rfl, isLeast_width h⟩, by simp [hnot]⟩
  · rename_i hbits
    have hbig : 128 < bits := Nat.lt_of_not_le hbits
    exact ⟨fun h => absurd h (by omega), by simp [hbig]⟩

/-- Integers are represented natively at any depth. -/
theorem isNative_of_mem_parts {type : ParamType} {signed : Bool} {bits : Nat} {repr : IntegerRepr}
    (h : .integer signed bits repr ∈ (TypeDescriptor.ofType .native type).parts) :
    IsNative bits repr := by
  rw [TypeDescriptor.parts_ofType] at h
  obtain ⟨part, -, hpart⟩ := List.mem_map.1 h
  have hchoose : repr = .choose .native bits := by
    cases part with
    | uint declared | int declared =>
      obtain ⟨-, rfl, rfl⟩ := TypeDescriptor.integer.inj hpart
      rfl
    | address | bool | string | bytes => cases hpart
    | fixedBytes _ | array _ | fixedArray _ _ | tuple _ => cases hpart
  rw [hchoose]
  exact isNative_choose bits

/-- Under either policy the type that is chosen determines the type of the interface, names, lengths
and widths included, and it is chosen part by part. Under the native policy every integer at any
depth is represented natively. Under the exact policy two types have the same code exactly if they
differ in nothing but the names of components. -/
theorem type_mapping_loses_nothing (type : ParamType) :
    (∀ policy other, TypeDescriptor.ofType policy type = TypeDescriptor.ofType policy other →
      type = other) ∧
    (∀ policy, (TypeDescriptor.ofType policy type).parts =
      type.parts.map (TypeDescriptor.ofType policy)) ∧
    (∀ signed bits repr, .integer signed bits repr ∈ (TypeDescriptor.ofType .native type).parts →
      IsNative bits repr) ∧
    ∀ other, exactCode type = exactCode other ↔ type.unnamed = other.unnamed :=
  ⟨fun policy _ h => TypeDescriptor.ofType_injective policy h,
    fun policy => TypeDescriptor.parts_ofType policy type,
    fun _ _ _ h => isNative_of_mem_parts h, fun _ => exactCode_eq_iff⟩

/-- A transfer has the same code without its names, and an amount of 24 bits is stored in 32. -/
theorem type_mapping_loses_nothing_transfer :
    exactCode (.tuple [("to", .address), ("amount", .uint 24)]) =
      exactCode (.tuple [("", .address), ("", .uint 24)]) ∧ IsNative 24 (.primitive 32) := by
  obtain ⟨-, -, hnative, hcode⟩ :=
    type_mapping_loses_nothing (.tuple [("to", .address), ("amount", .uint 24)])
  exact ⟨(hcode _).2 rfl, hnative false 24 _ (.tail _ (.tail _ (.head _)))⟩

end AbiBindings.Bindings
