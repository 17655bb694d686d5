import AbiBindings.Abi.Declaration
import AbiBindings.Json.Structure

/-!
# Interface documents

A document is a JSON array of declarations. A declaration and a parameter are records: objects with
known fields, of which only `type` must be present, or arrays of the values of these fields in
order.
-/

set_option autoImplicit false

namespace AbiBindings.Abi

open Json Json.Reader

/-- A field that is read if it was not read before. -/
def field {α σ : Type} (key : String) (earlier : Option α) (value : Reader α) (use : α → σ) :
    Except Problem (Reader σ) :=
  if earlier.isSome then .error (.repeatedField key) else .ok (use <$> value)

/-- What is known of the fields of a parameter by name. -/
def ParameterFields.known (components : Reader (List Parameter)) (fields : ParameterFields) :
    String → Option (Except Problem (Reader ParameterFields))
  | "name" => some (field "name" fields.name string fun a => { fields with name := some a })
  | "type" => some (field "type" fields.type string fun a => { fields with type := some a })
  | "components" =>
    some (field "components" fields.components components
      fun a => { fields with components := some a })
  | "indexed" =>
    some (field "indexed" fields.indexed boolean fun a => { fields with indexed := some a })
  | _ => none

/-- Reads the fields of a parameter by name. -/
def parameterByName (components : Reader (List Parameter)) : Reader Parameter := do
  let fields ← members (ParameterFields.known components) ((← remaining) + 1) true {}
  match fields.parameter? with
  | some p => return p
  | none => giveUp (.missingField "type")

/-- Reads the fields of a parameter by position. -/
def parameterByPosition (components : Reader (List Parameter)) : Reader Parameter := do
  let name ← element? true string
  match ← element? false string with
  | none => giveUp (.wrongLength 1 "struct AbiParameter with 4 elements")
  | some type =>
    let components ← element? false components
    let indexed ← element? false boolean
    return ⟨name.getD "", type, components.getD [], indexed.getD false⟩

/-- Reads a parameter, given a reader for its components. -/
def parameterWith (levels : Nat) (components : Reader (List Parameter)) : Reader Parameter :=
  record levels "struct AbiParameter" (parameterByPosition components) (parameterByName components)

/-- Reads a parameter with components nested as deep as the remaining levels allow. -/
def parameter : Nat → Reader Parameter
  | levels + 2 => parameterWith (levels + 2) (array (levels + 1) (parameter levels))
  | levels => parameterWith levels (failThere .tooDeep)

/-- Reads a list of parameters. -/
def parameters (levels : Nat) : Reader (List Parameter) :=
  array levels (parameter (levels - 1))

/-- The fields of a declaration that have been read. -/
structure DeclarationFields where
  type : Option EntryKind := none
  name : Option (Option String) := none
  inputs : Option (List Parameter) := none
  outputs : Option (List Parameter) := none
  stateMutability : Option (Option Mutability) := none
  constant : Option Bool := none
  payable : Option Bool := none
  anonymous : Option Bool := none

/-- The declaration that fields state; nothing without a type. -/
def DeclarationFields.declaration? (fields : DeclarationFields) : Option Declaration :=
  fields.type.map fun kind => {
    kind := kind
    name := fields.name.getD none
    inputs := fields.inputs.getD []
    outputs := fields.outputs.getD []
    mutability := fields.stateMutability.getD none
    constant := fields.constant.getD false
    payable := fields.payable.getD false
    anonymous := fields.anonymous.getD false }

/-- Reads the name of an entry, which may be `null`. -/
def entryName : Reader (Option String) :=
  optional string

/-- Reads a mutability, which may be `null`. -/
def entryMutability (levels : Nat) : Reader (Option Mutability) :=
  optional (choice levels Mutability.names)

/-- What is known of the fields of a declaration by name. -/
def DeclarationFields.known (levels : Nat) (fields : DeclarationFields) :
    String → Option (Except Problem (Reader DeclarationFields))
  | "type" =>
    some (field "type" fields.type (choice levels EntryKind.names)
      fun a => { fields with type := some a })
  | "name" => some (field "name" fields.name entryName fun a => { fields with name := some a })
  | "inputs" =>
    some (field "inputs" fields.inputs (parameters levels)
      fun a => { fields with inputs := some a })
  | "outputs" =>
    some (field "outputs" fields.outputs (parameters levels)
      fun a => { fields with outputs := some a })
  | "stateMutability" =>
    some (field "stateMutability" fields.stateMutability (entryMutability levels)
      fun a => { fields with stateMutability := some a })
  | "constant" =>
    some (field "constant" fields.constant boolean fun a => { fields with constant := some a })
  | "payable" =>
    some (field "payable" fields.payable boolean fun a => { fields with payable := some a })
  | "anonymous" =>
    some (field "anonymous" fields.anonymous boolean fun a => { fields with anonymous := some a })
  | _ => none

/-- Reads the fields of a declaration by name. -/
def declarationByName (levels : Nat) : Reader Declaration := do
  let fields ← members (DeclarationFields.known levels) ((← remaining) + 1) true {}
  match fields.declaration? with
  | some d => return d
  | none => giveUp (.missingField "type")

/-- Reads the fields of a declaration by position. -/
def declarationByPosition (levels : Nat) : Reader Declaration := do
  match ← element? true (choice levels EntryKind.names) with
  | none => giveUp (.wrongLength 0 "struct RawEntry with 8 elements")
  | some kind =>
    let name ← element? false entryName
    let inputs ← element? false (parameters levels)
    let outputs ← element? false (parameters levels)
    let mutability ← element? false (entryMutability levels)
    let constant ← element? false boolean
    let payable ← element? false boolean
    let anonymous ← element? false boolean
    return {
      kind := kind
      name := name.getD none
      inputs := inputs.getD []
      outputs := outputs.getD []
      mutability := mutability.getD none
      constant := constant.getD false
      payable := payable.getD false
      anonymous := anonymous.getD false }

/-- Reads a declaration. -/
def declaration (levels : Nat) : Reader Declaration :=
  record levels "struct RawEntry" (declarationByPosition (levels - 1))
    (declarationByName (levels - 1))

/-- Reads the declarations of a document. -/
def declarations : Reader (List Declaration) :=
  array levels (declaration (levels - 1))

end AbiBindings.Abi
