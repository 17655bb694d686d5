import AbiBindings.Abi.Parameter
import AbiBindings.Json.Value

/-!
# Parameters as JSON values

`Parameter.toValue` writes a parameter as an object: its name and its type always, its components
only if it has some, and the indexed flag only if it is set. `Parameter.ofValue?` reads such an
object, or an array of the values in this order; what is missing is empty, except for the type.
-/

set_option autoImplicit false

namespace AbiBindings.Abi

open Json

mutual

/-- A parameter as a JSON value. -/
def Parameter.toValue : Parameter → Value
  | ⟨name, type, components, indexed⟩ =>
    .object ([("name", .string name), ("type", .string type)] ++
      (if components.isEmpty then []
        else [("components", .array (Parameter.listToValues components))]) ++
      (if indexed then [("indexed", .boolean true)] else []))

/-- Parameters as JSON values. -/
def Parameter.listToValues : List Parameter → List Value
  | [] => []
  | p :: rest => p.toValue :: Parameter.listToValues rest

end

/-- The text of a string value. -/
def stringOf? : Value → Option String
  | .string s => some s
  | _ => none

/-- The truth value of a boolean value. -/
def booleanOf? : Value → Option Bool
  | .boolean b => some b
  | _ => none

/-- A field that is set if it was not set before. -/
def setOnce {α σ : Type} (earlier : Option α) (value : Option α) (use : α → σ) : Option σ :=
  if earlier.isSome then none else value.map use

mutual

/-- The parameter of a JSON value. -/
def Parameter.ofValue? : Value → Option Parameter
  | .object members => (ParameterFields.ofMembers? {} members).bind ParameterFields.parameter?
  | .array [.string name, .string type] => some ⟨name, type, [], false⟩
  | .array [.string name, .string type, components] =>
    (Parameter.listOfValue? components).map fun ps => ⟨name, type, ps, false⟩
  | .array [.string name, .string type, components, .boolean indexed] =>
    (Parameter.listOfValue? components).map fun ps => ⟨name, type, ps, indexed⟩
  | _ => none

/-- The parameters of a JSON array. -/
def Parameter.listOfValue? : Value → Option (List Parameter)
  | .array elements => Parameter.listOfValues? elements
  | _ => none

/-- The parameters of JSON values. -/
def Parameter.listOfValues? : List Value → Option (List Parameter)
  | [] => some []
  | v :: rest => do
    let p ← Parameter.ofValue? v
    let ps ← Parameter.listOfValues? rest
    return p :: ps

/-- The fields that the members of an object state, besides those that are known already. No field
is stated twice. -/
def ParameterFields.ofMembers? (fields : ParameterFields) :
    List (String × Value) → Option ParameterFields
  | [] => some fields
  | (key, v) :: rest =>
    let fields' : Option ParameterFields :=
      if key = "name" then
        setOnce fields.name (stringOf? v) fun a => { fields with name := some a }
      else if key = "type" then
        setOnce fields.type (stringOf? v) fun a => { fields with type := some a }
      else if key = "components" then
        setOnce fields.components (Parameter.listOfValue? v)
          fun a => { fields with components := some a }
      else if key = "indexed" then
        setOnce fields.indexed (booleanOf? v) fun a => { fields with indexed := some a }
      else some fields
    match fields' with
    | some fields' => ParameterFields.ofMembers? fields' rest
    | none => none

end

end AbiBindings.Abi
