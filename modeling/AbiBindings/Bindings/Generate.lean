import AbiBindings.Bindings.Basic
import AbiBindings.Naming.Inputs

/-!
# Generating bindings

`generate` makes the bindings of an interface, all of them or none. The settings are checked
first, then the names of functions and of events are settled, and then the types of the
constructor, of each function and of each event are chosen.
-/

set_option autoImplicit false

namespace AbiBindings.Bindings

open Abi

/-- The type of the generated code for a parameter. -/
def describe (policy : TypePolicy) (location : Location) (p : Parameter) :
    Except GenerateError TypeDescriptor :=
  match p.paramType with
  | .ok type => .ok (.ofType policy type)
  | .error error => .error (.ofType location error)

/-- The types of the generated code for a list of parameters. -/
def describeAll (policy : TypePolicy) (location : Location) :
    List Parameter → Except GenerateError (List TypeDescriptor)
  | [] => .ok []
  | p :: rest => do
    let type ← describe policy location p
    let types ← describeAll policy location rest
    .ok (type :: types)

/-- Inputs of the generated code: their names, which avoid the reserved ones, and their types. -/
def arguments (policy : TypePolicy) (location : Location) (reserved : List String)
    (inputs : List Parameter) : Except GenerateError (List Argument) := do
  let names := Naming.inputNames reserved (inputs.map (·.name))
  let types ← describeAll policy location inputs
  .ok (List.zipWith Argument.mk names types)

/-- The names that the deploy operation uses itself. -/
def deployNames : List String := ["web3", "binary"]

/-- The deploy operation of an interface. -/
def deployment (policy : TypePolicy) (abi : Interface) : Except GenerateError Deployment :=
  match abi.constructor? with
  | none => .ok ⟨[], false⟩
  | some e => do
    .ok ⟨← arguments policy .constructor deployNames e.inputs, e.mutability = .payable⟩

/-- The method of a function. -/
def method (policy : TypePolicy) (r : Naming.Resolved) : Except GenerateError Method := do
  let location := Location.function r.entry.title
  let inputs ← arguments policy location [] r.entry.inputs
  let outputs ← describeAll policy location r.entry.outputs
  if Code.isWord r.accessor then
    .ok {
      name := r.accessor
      signature := r.signature
      selector := Hash.selector (Hash.keccak256 (Text.Utf8.encode r.signature))
      mutability := r.entry.mutability
      inputs := inputs
      outputs := outputs }
  else .error (.unwritable r.accessor)

/-- The methods of a list of functions. -/
def methods (policy : TypePolicy) : List Naming.Resolved → Except GenerateError (List Method)
  | [] => .ok []
  | r :: rest => do
    let m ← method policy r
    let ms ← methods policy rest
    .ok (m :: ms)

/-- The fields of an event, given the name, the input and the type of each. -/
def fields (policy : TypePolicy) (location : Location) :
    List String → List Parameter → List ParamType → Except GenerateError (List Field)
  | name :: names, p :: inputs, type :: types => do
    let descriptor ← describe policy location p
    let rest ← fields policy location names inputs types
    .ok (⟨name, descriptor, p.indexed, type.isValueType⟩ :: rest)
  | _, _, _ => .ok []

/-- The binding of an event. -/
def event (policy : TypePolicy) (r : Naming.Resolved) : Except GenerateError EventBinding := do
  let names := Naming.inputNames [] (r.entry.inputs.map (·.name))
  let fields ← fields policy (.event r.entry.title) names r.entry.inputs r.types
  .ok {
    identifier := r.identifier
    accessor := r.accessor
    signature := r.signature
    topic := Hash.keccak256 (Text.Utf8.encode r.signature)
    anonymous := r.entry.anonymous
    namedFields := !r.entry.inputs.all fun p => p.name = ""
    fields := fields }

/-- The bindings of a list of events. -/
def events (policy : TypePolicy) :
    List Naming.Resolved → Except GenerateError (List EventBinding)
  | [] => .ok []
  | r :: rest => do
    let e ← event policy r
    let es ← events policy rest
    .ok (e :: es)

/-- The bindings of an interface for a contract of a given name. -/
def generate (settings : Settings) (name : String) (abi : Interface) (code : Bytecode) :
    Except GenerateError ContractBindings := do
  let setup ← settings.setup name
  let functions ← Naming.resolve setup.aliases abi.functions
  let named ← Naming.resolve [] abi.events
  let deployment ← deployment settings.policy abi
  let methods ← methods settings.policy functions
  let events ← events settings.policy named
  .ok {
    package := settings.package
    setup := setup
    code := code
    policy := settings.policy
    format := settings.format
    deployment := deployment
    methods := methods
    events := events }

/-- The bindings of the interface in a document, which must have entries. -/
def generateFromDocument (settings : Settings) (name : String) (document : List UInt8)
    (code : Bytecode) : Except GenerateError ContractBindings :=
  match load false .bytes document with
  | .ok abi => generate settings name abi code
  | .error error => .error (.ofLoad error)

end AbiBindings.Bindings
