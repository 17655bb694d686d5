import AbiBindings.Abi.ParamType

/-!
# Types of the bindings

A `TypeDescriptor` says which type of the generated code stands for a type of the interface. Only
integers leave a choice: under the native policy an integer becomes the smallest primitive that
holds it, or a big integer of 256 bits, under the exact policy it keeps the width it declares.
-/

set_option autoImplicit false

namespace AbiBindings.Bindings

open Abi

/-- How integers are represented. -/
inductive TypePolicy where
  /-- By primitives where they hold all values, by big integers elsewhere. -/
  | native
  /-- By integers of exactly the declared width. -/
  | exact
  deriving DecidableEq, Repr

/-- The representation of an integer. -/
inductive IntegerRepr where
  /-- A primitive of the given width. -/
  | primitive (width : Nat)
  /-- A big integer of 256 bits. -/
  | big
  /-- An integer of exactly the declared width. -/
  | exact
  deriving DecidableEq, Repr

/-- A type of the generated code. -/
inductive TypeDescriptor where
  | address
  | bool
  | string
  | bytes
  | fixedBytes (size : Nat)
  /-- An integer that declares the width `bits`. -/
  | integer (signed : Bool) (bits : Nat) (repr : IntegerRepr)
  /-- An array, of a fixed length if one is given. -/
  | array (element : TypeDescriptor) (length : Option Nat)
  | tuple (components : List (String × TypeDescriptor))
  deriving Inhabited

/-- The least power of two that is not below a number. -/
def nextPowerOfTwo (n : Nat) : Nat :=
  if n ≤ 1 then 1 else Nat.pow 2 (Nat.log2 (n - 1) + 1)

/-- The greatest width of an integer that becomes a primitive. -/
def primitiveLimit : Nat := 128

/-- The representation of an integer of a declared width. -/
def IntegerRepr.choose (policy : TypePolicy) (bits : Nat) : IntegerRepr :=
  match policy with
  | .exact => .exact
  | .native =>
    if bits ≤ primitiveLimit then .primitive (max (nextPowerOfTwo bits) 8) else .big

namespace TypeDescriptor

mutual

/-- The type of the generated code that stands for a type of the interface. -/
def ofType (policy : TypePolicy) : ParamType → TypeDescriptor
  | .address => .address
  | .bool => .bool
  | .string => .string
  | .bytes => .bytes
  | .fixedBytes size => .fixedBytes size
  | .uint bits => .integer false bits (.choose policy bits)
  | .int bits => .integer true bits (.choose policy bits)
  | .array element => .array (ofType policy element) none
  | .fixedArray element length => .array (ofType policy element) (some length)
  | .tuple components => .tuple (ofComponents policy components)

/-- The types that stand for the components of a tuple. -/
def ofComponents (policy : TypePolicy) :
    List (String × ParamType) → List (String × TypeDescriptor)
  | [] => []
  | (name, type) :: rest => (name, ofType policy type) :: ofComponents policy rest

end

/-- The greatest length of an array that has a default value. -/
def defaultArrayLimit : Nat := 32

/-- The greatest number of components of a tuple that has a default value. -/
def defaultTupleLimit : Nat := 12

mutual

/-- Whether the type has a default value. -/
def supportsDefault : TypeDescriptor → Bool
  | .fixedBytes size => size ≤ defaultArrayLimit
  | .array element (some length) => length ≤ defaultArrayLimit && supportsDefault element
  | .tuple components =>
    components.length ≤ defaultTupleLimit && allSupportDefault components
  | _ => true

/-- Whether the types of all components have a default value. -/
def allSupportDefault : List (String × TypeDescriptor) → Bool
  | [] => true
  | (_, type) :: rest => supportsDefault type && allSupportDefault rest

end

end TypeDescriptor

end AbiBindings.Bindings
