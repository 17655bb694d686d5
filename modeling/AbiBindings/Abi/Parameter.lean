/-!
# Parameters

A parameter of a contract interface as the document states it: a name, the text of its type, the
components of a tuple type, and whether an event indexes it. `ParameterFields` gathers these while a
parameter is read.
-/

set_option autoImplicit false

namespace AbiBindings.Abi

/-- A parameter with the text of its type. -/
structure Parameter where
  /-- The name, empty for an unnamed parameter. -/
  name : String
  /-- The text of the type, such as `uint256` or `tuple[2]`. -/
  type : String
  /-- The components of the innermost tuple of the type. -/
  components : List Parameter
  /-- Whether an event indexes the parameter. -/
  indexed : Bool
  deriving Inhabited

/-- The parameter as an input that no event indexes. -/
def Parameter.unindexed (p : Parameter) : Parameter :=
  { p with indexed := false }

/-- The fields of a parameter that have been read. -/
structure ParameterFields where
  name : Option String := none
  type : Option String := none
  components : Option (List Parameter) := none
  indexed : Option Bool := none

/-- The parameter that fields state; nothing without a type. -/
def ParameterFields.parameter? (fields : ParameterFields) : Option Parameter :=
  fields.type.map fun type =>
    ⟨fields.name.getD "", type, fields.components.getD [], fields.indexed.getD false⟩

end AbiBindings.Abi
