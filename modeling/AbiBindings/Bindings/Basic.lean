import AbiBindings.Bindings.Settings
import AbiBindings.Bytecode
import AbiBindings.FilePath

/-!
# Bindings

The bindings of a contract, before they are written as code: the operation that deploys it, a
method for each function, and for each event a type of its data with a builder of filters. All
names are settled and all types are chosen. `ContractBindings.members` lists what is generated.
-/

set_option autoImplicit false

namespace AbiBindings.Bindings

open Abi

/-- A named input of the generated code. -/
structure Argument where
  name : String
  type : TypeDescriptor

/-- The operation that deploys a contract. -/
structure Deployment where
  inputs : List Argument
  /-- Whether the constructor takes payments. -/
  payable : Bool

/-- The method of a function. -/
structure Method where
  name : String
  signature : String
  selector : Vector UInt8 4
  mutability : Mutability
  inputs : List Argument
  outputs : List TypeDescriptor

/-- A field of the data of an event. -/
structure Field where
  name : String
  type : TypeDescriptor
  indexed : Bool
  /-- Whether a topic holds the value itself, not its hash. -/
  valueTopic : Bool

/-- A setter of a filter builder: it sets the topic at a position. -/
structure Setter where
  name : String
  position : Nat
  /-- The type of the topic; none if the topic is a hash. -/
  argument : Option TypeDescriptor

/-- A trait that the type of an event derives. -/
inductive DerivedTrait where
  | clone
  | debug
  | default
  | eq
  | partialEq
  /-- A trait that the settings ask for. -/
  | custom (path : List Code.Token)

/-- The type, the filter builder and the accessor of an event. -/
structure EventBinding where
  /-- The name of the type. -/
  identifier : String
  /-- The name of the method that starts a filter. -/
  accessor : String
  signature : String
  topic : Hash.Digest
  anonymous : Bool
  /-- Whether the fields of the type have names; they have unless no input has one. -/
  namedFields : Bool
  fields : List Field

namespace EventBinding

/-- The fields that are indexed, in order. -/
def indexedFields (e : EventBinding) : List Field :=
  e.fields.filter (·.indexed)

/-- The setters of the filter builder: one for each indexed field, in order of the topics. -/
def setters (e : EventBinding) : List Setter :=
  e.indexedFields.zipIdx.map fun (field, position) =>
    ⟨field.name, position, if field.valueTopic then some field.type else none⟩

/-- The name of the filter builder. -/
def builder (e : EventBinding) : String :=
  e.identifier ++ "Builder"

/-- Whether the type of the event has a default value. -/
def supportsDefault (e : EventBinding) : Bool :=
  e.fields.all fun field => field.type.supportsDefault

/-- The traits that the type of the event derives, with further ones at the end. -/
def derives (e : EventBinding) (further : List (List Code.Token)) : List DerivedTrait :=
  [.clone, .debug] ++ (if e.supportsDefault then [.default] else []) ++ [.eq, .partialEq] ++
    further.map .custom

end EventBinding

/-- What a member of the bindings does. -/
inductive MemberKind where
  /-- Deploys the contract; without code it fails when it is called. -/
  | deploy (binaryProvided : Bool)
  /-- Calls a function, by a transaction if it can change the state, and by a simulation. -/
  | function (mutability : Mutability) (submit simulate : Bool)
  /-- Holds the data of an event, and filters by the indexed fields. -/
  | event (anonymous : Bool) (indexed : List String)

/-- A member of the bindings. -/
structure Member where
  identifier : String
  /-- The signature; none for the deploy operation. -/
  signature : Option String
  kind : MemberKind
  inputs : List Argument
  outputs : List TypeDescriptor

/-- The identifier of a member with the scope it is generated in. -/
def Member.qualified (m : Member) : String :=
  match m.kind with
  | .deploy _ => "Contract::" ++ m.identifier
  | .function _ _ _ => "Methods::" ++ m.identifier
  | .event _ _ => "events::" ++ m.identifier

/-- The bindings of a contract. -/
structure ContractBindings where
  package : String
  setup : Setup
  code : Bytecode
  policy : TypePolicy
  /-- Whether the generated code is to be formatted. -/
  format : Bool
  deployment : Deployment
  methods : List Method
  events : List EventBinding

/-- The member of the deploy operation. -/
def Deployment.member (d : Deployment) (code : Bytecode) : Member :=
  ⟨"deploy", none, .deploy (!code.isNotProvided), d.inputs, []⟩

/-- The member of a method. -/
def Method.member (m : Method) : Member :=
  ⟨m.name, some m.signature, .function m.mutability (!m.mutability.isReadOnly) true, m.inputs,
    m.outputs⟩

/-- The member of an event. -/
def EventBinding.member (e : EventBinding) : Member :=
  ⟨e.identifier, some e.signature, .event e.anonymous (e.indexedFields.map (·.name)),
    e.fields.map fun field => ⟨field.name, field.type⟩, []⟩

namespace ContractBindings

/-- The name of the contract type. -/
def contractName (b : ContractBindings) : String :=
  b.setup.contractName

/-- The name of the generated module. -/
def moduleName (b : ContractBindings) : String :=
  b.setup.moduleName

/-- The members: the deploy operation, then the functions and the events in order. -/
def members (b : ContractBindings) : List Member :=
  b.deployment.member b.code :: (b.methods.map Method.member ++ b.events.map EventBinding.member)

/-- The segments of a package: its names in lower case. -/
def packageSegments (package : String) : List String :=
  ((Text.split (fun c => c == '.' || c == ':') package).filter (· ≠ "")).map Naming.snakeName

/-- The path of the file of a module below an output directory: a directory for each segment of the
package, and then the file. -/
def pathOf (package module : String) : String :=
  (packageSegments package ++ [module ++ ".rs"]).foldl FilePath.join ""

/-- The path of the generated file below an output directory. -/
def relativePath (b : ContractBindings) : String :=
  pathOf b.package b.moduleName

end ContractBindings

end AbiBindings.Bindings
