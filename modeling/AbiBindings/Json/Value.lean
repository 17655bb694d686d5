/-!
# JSON values

The values that interface data is written as. The members of an object stand in a list, in the
order in which they are written.
-/

set_option autoImplicit false

namespace AbiBindings.Json

/-- A JSON value. -/
inductive Value where
  | null
  | boolean (value : Bool)
  | number (value : Int)
  | string (value : String)
  | array (elements : List Value)
  | object (members : List (String × Value))
  deriving Inhabited

end AbiBindings.Json
