import AbiBindings.Text.Join

/-!
# Parameter types

The types that parameters of a contract interface can have, and their canonical text, which
signatures are made of. A tuple is written as its component types in round brackets, without the
names of the components.
-/

set_option autoImplicit false

namespace AbiBindings.Abi

/-- A type of the contract interface. -/
inductive ParamType where
  | address
  | bool
  | string
  | bytes
  /-- A byte sequence of fixed size, from 1 to 32. -/
  | fixedBytes (size : Nat)
  /-- An unsigned integer; the width is a multiple of 8, from 8 to 256. -/
  | uint (bits : Nat)
  /-- A signed integer; the width is a multiple of 8, from 8 to 256. -/
  | int (bits : Nat)
  /-- An array of any length. -/
  | array (element : ParamType)
  /-- An array of a fixed, positive length. -/
  | fixedArray (element : ParamType) (length : Nat)
  /-- A tuple of named components, one at least. -/
  | tuple (components : List (String × ParamType))
  deriving Inhabited

namespace ParamType

/-- Whether values of the type are stored verbatim in a topic of 32 bytes. -/
def isValueType : ParamType → Bool
  | address | bool | fixedBytes _ | uint _ | int _ => true
  | _ => false

mutual

/-- The number of types on the longest way from the type down to an elementary one. -/
def depth : ParamType → Nat
  | array element => 1 + element.depth
  | fixedArray element _ => 1 + element.depth
  | tuple components => 1 + maxDepth components
  | _ => 1

/-- The greatest depth among the components of a tuple. -/
def maxDepth : List (String × ParamType) → Nat
  | [] => 0
  | (_, type) :: rest => max type.depth (maxDepth rest)

end

mutual

/-- The canonical text of a type. -/
def canonical : ParamType → String
  | address => "address"
  | bool => "bool"
  | string => "string"
  | bytes => "bytes"
  | fixedBytes size => "bytes" ++ toString size
  | uint bits => "uint" ++ toString bits
  | int bits => "int" ++ toString bits
  | array element => element.canonical ++ "[]"
  | fixedArray element length => element.canonical ++ "[" ++ toString length ++ "]"
  | tuple components => "(" ++ Text.join "," (canonicalComponents components) ++ ")"

/-- The canonical texts of the components of a tuple. -/
def canonicalComponents : List (String × ParamType) → List String
  | [] => []
  | (_, type) :: rest => type.canonical :: canonicalComponents rest

end

/-- The canonical text of a list of types in round brackets. -/
def canonicalTuple (types : List ParamType) : String :=
  "(" ++ Text.join "," (types.map canonical) ++ ")"

end ParamType

end AbiBindings.Abi
