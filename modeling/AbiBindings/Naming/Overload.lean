import AbiBindings.Abi.ParamType

/-!
# Suffixes of overloads

Functions and events of one name are told apart by their types: the suffix of a list of types
writes each of them with letters, digits and underscores alone. An array ends in `array` and its
length, a tuple stands between `tuple` and `end`.
-/

set_option autoImplicit false

namespace AbiBindings.Naming

open Abi

mutual

/-- The suffix of a type. -/
def typeSuffix : ParamType → String
  | .array element => typeSuffix element ++ "_array"
  | .fixedArray element length => typeSuffix element ++ "_array" ++ toString length
  | .tuple components => "tuple_" ++ Text.join "_" (componentSuffixes components) ++ "_end"
  | type => type.canonical

/-- The suffixes of the components of a tuple. -/
def componentSuffixes : List (String × ParamType) → List String
  | [] => []
  | (_, type) :: rest => typeSuffix type :: componentSuffixes rest

end

/-- The suffix of a list of types. -/
def overloadSuffix (types : List ParamType) : String :=
  if types.isEmpty then "no_args" else Text.join "_" (types.map typeSuffix)

end AbiBindings.Naming
