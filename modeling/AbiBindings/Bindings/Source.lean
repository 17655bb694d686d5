import AbiBindings.Bindings.Basic
import AbiBindings.Code.Literal

/-!
# The code of bindings

Each part of the bindings is written as tokens: the constant with the compiled code, the contract
type, the deploy operation, the methods, and the types, filter builders and accessors of events.
`ContractBindings.source` is the text of the whole module. Types of the crate that the generated
code calls are named through the alias `runtime`, which every generated module imports.
-/

set_option autoImplicit false

namespace AbiBindings.Bindings

open Abi Code

/-- A name as a token. -/
def nameToken (name : String) : Token := .word name

/-- A type of the runtime crate. -/
def runtimeType (name : String) : List Token :=
  phrase "self :: runtime ::" ++ [nameToken name]

/-- A generic type with its arguments. -/
def generic (type arguments : List Token) : List Token :=
  type ++ .mark '<' false :: arguments ++ [.mark '>' false]

/-- The name of a primitive integer. -/
def primitiveName (signed : Bool) (width : Nat) : String :=
  (if signed then "i" else "u") ++ toString width

mutual

/-- The tokens of a type. -/
def typeTokens : TypeDescriptor → List Token
  | .address => runtimeType "Address"
  | .bool => phrase "bool"
  | .string => phrase ":: std :: string :: String"
  | .bytes => phrase ":: std :: vec :: Vec < u8 >"
  | .fixedBytes size => [square (phrase "u8 ;" ++ [numberLiteral size])]
  | .integer signed _ (.primitive width) => [nameToken (primitiveName signed width)]
  | .integer signed _ .big => runtimeType (if signed then "I256" else "U256")
  | .integer signed bits .exact =>
    generic (phrase "self :: runtime :: sol ::" ++ [nameToken (if signed then "Int" else "Uint")])
      [numberLiteral bits]
  | .array element (some length) =>
    [square (typeTokens element ++ .mark ';' false :: [numberLiteral length])]
  | .array element none => generic (phrase ":: std :: vec :: Vec") (typeTokens element)
  | .tuple components => [round (commaTerminated (componentTokens components))]

/-- The tokens of the types of the components of a tuple. -/
def componentTokens : List (String × TypeDescriptor) → List (List Token)
  | [] => []
  | (_, type) :: rest => typeTokens type :: componentTokens rest

end

/-- The type of several outputs: none is the empty tuple, one stands alone. -/
def outputTokens : List TypeDescriptor → List Token
  | [] => [round []]
  | [type] => typeTokens type
  | types => [round (commaSeparated (types.map typeTokens))]

/-- An input in a list of parameters. -/
def Argument.tokens (a : Argument) : List Token :=
  nameToken a.name :: .mark ':' false :: typeTokens a.type

/-- The values of inputs as a tuple. -/
def valueTuple (inputs : List Argument) : Token :=
  round (commaTerminated (inputs.map fun a => [nameToken a.name]))

/-- An attribute. -/
def attributeTokens (body : List Token) : List Token :=
  [.mark '#' false, square body]

/-- The attribute that derives traits. -/
def deriveAttribute (traits : List (List Token)) : List Token :=
  attributeTokens [.word "derive", round (commaSeparated traits)]

/-- The attribute that allows functions with many parameters. -/
def manyArguments : List Token :=
  attributeTokens [.word "allow", round (phrase "clippy :: too_many_arguments")]

/-- The constant that holds the compiled code. -/
def binaryTokens (code : Bytecode) : List Token :=
  docLine "The compiled contract binary embedded at generation time, or `None`" ++
  docLine "if it was not provided. Deployments fail without it." ++
  phrase "pub const BINARY : Option < & str > =" ++
  (match code.text with
    | some text => [.word "Some", round [stringLiteral text]]
    | none => [.word "None"]) ++
  phrase ";"

/-- The contract type with its fixed operations. -/
def contractTokens (name : String) : List Token :=
  doc ("Type-safe wrapper around an instance of the `" ++ name ++ "` contract.") ++
  deriveAttribute [phrase "Clone"] ++
  phrase "pub struct Contract" ++ [curly (phrase "instance : self :: runtime :: DynInstance ,")] ++
  phrase "impl Contract" ++ [curly (
    docLine "Creates a new contract instance with the specified `web3`" ++
    docLine "provider at the given address." ++
    phrase "pub fn at" ++
    [round (phrase "web3 : & self :: runtime :: DynWeb3 , address : self :: runtime :: Address")] ++
    phrase "-> Self" ++ [curly (
      phrase "Contract" ++ [curly (
        phrase "instance : self :: runtime :: DynInstance :: at" ++
        [round (phrase "web3 . clone" ++ [round []] ++ phrase ", address")] ++ phrase ",")])] ++
    docLine "Returns the contract address being used by this instance." ++
    phrase "pub fn address" ++ [round (phrase "& self")] ++
    phrase "-> self :: runtime :: Address" ++ [curly (
      phrase "self . instance . address" ++ [round []])] ++
    docLine "Returns a reference to the underlying untyped contract instance." ++
    phrase "pub fn raw_instance" ++ [round (phrase "& self")] ++
    phrase "-> & self :: runtime :: DynInstance" ++ [curly (phrase "& self . instance")])] ++
  phrase "impl From < self :: runtime :: DynInstance > for Contract" ++ [curly (
    phrase "fn from" ++ [round (phrase "instance : self :: runtime :: DynInstance")] ++
    phrase "-> Self" ++ [curly (phrase "Contract" ++ [curly (phrase "instance")])])] ++
  phrase "impl std :: fmt :: Debug for Contract" ++ [curly (
    phrase "fn fmt" ++ [round (phrase "& self , f : & mut std :: fmt :: Formatter")] ++
    phrase "-> std :: fmt :: Result" ++ [curly (
      phrase "f . debug_tuple" ++ [round [stringLiteral name]] ++
      phrase ". field" ++ [round (phrase "& self . address" ++ [round []])] ++
      phrase ". finish" ++ [round []])])]

/-- The deploy operation. -/
def Deployment.tokens (d : Deployment) (contract : String) : List Token :=
  phrase "impl Contract" ++ [curly (
    doc ("Builds a deployment of a new `" ++ contract ++ "` contract" ++
      (if d.payable then ", the constructor is payable" else "") ++
      ". Fails with `BinaryNotProvided` if the bindings were generated without the contract " ++
      "binary.") ++
    manyArguments ++
    phrase "pub fn deploy" ++
    [round (phrase "web3 : & self :: runtime :: DynWeb3" ++
      commaPreceded (d.inputs.map Argument.tokens))] ++
    phrase "-> Result < self :: runtime :: DynDeployBuilder < Self > ," ++
    phrase "self :: runtime :: errors :: DeployError , >" ++ [curly (
      phrase "let binary = BINARY . ok_or" ++
      [round (phrase "self :: runtime :: errors :: DeployError :: BinaryNotProvided")] ++
      phrase "? ; Ok" ++
      [round (phrase "self :: runtime :: DynDeployBuilder :: new" ++
        [round (phrase "web3 . clone" ++ [round []] ++ phrase ", binary ," ++
          [valueTuple d.inputs] ++ phrase ",")])])])]

/-- What the documentation of a method says about calling it. -/
def callingAdvice (mutability : Mutability) : String :=
  if mutability.isReadOnly then "Use `call()` to read its result."
  else "Use `send()` to submit a transaction or `call()` to simulate it without changing state."

/-- The digits of a selector in the documentation of a method: two for each byte. -/
def Method.selectorDigits (m : Method) : String :=
  String.join (m.selector.toList.map fun b => Text.paddedHex 2 b.toNat)

/-- The method of a function. -/
def Method.tokens (m : Method) : List Token :=
  let builder := if m.mutability.isReadOnly then "DynViewMethodBuilder" else "DynMethodBuilder"
  let constructor := if m.mutability.isReadOnly then "view_method" else "method"
  doc ("Generated by `solwrap` for `" ++ m.signature ++ "` (selector `0x" ++ m.selectorDigits ++
    "`), a `" ++ m.mutability.name ++ "` function. " ++ callingAdvice m.mutability) ++
  manyArguments ++
  phrase "pub fn" ++ [nameToken m.name] ++
  [round (phrase "& self" ++ commaPreceded (m.inputs.map Argument.tokens))] ++
  phrase "->" ++ generic (runtimeType builder) (outputTokens m.outputs) ++ [curly (
    phrase "self . instance ." ++ [nameToken constructor] ++
    [round (byteArray m.selector.toList :: phrase "," ++ [valueTuple m.inputs])])]

/-- The type that gives access to the methods; nothing without functions. -/
def methodsTokens (methods : List Method) : List Token :=
  if methods.isEmpty then [] else
  phrase "impl Contract" ++ [curly (
    docLine "Returns an object that allows accessing typed method" ++
    docLine "signatures." ++
    phrase "pub fn methods" ++ [round (phrase "& self")] ++ phrase "-> Methods < '_ >" ++ [curly (
      phrase "Methods" ++ [curly (phrase "instance : & self . instance ,")])])] ++
  docLine "Type containing signatures for all methods for generated contract" ++
  docLine "type." ++
  deriveAttribute [phrase "Clone", phrase "Copy"] ++
  phrase "pub struct Methods < 'a >" ++ [curly (
    phrase "instance : & 'a self :: runtime :: DynInstance ,")] ++
  phrase "impl Methods < '_ >" ++ [curly (methods.flatMap Method.tokens)]

/-- The tokens of a derived trait. -/
def DerivedTrait.tokens : DerivedTrait → List Token
  | .clone => phrase "Clone"
  | .debug => phrase "Debug"
  | .default => phrase "Default"
  | .eq => phrase "Eq"
  | .partialEq => phrase "PartialEq"
  | .custom path => path

/-- A hash value. -/
def hashTokens (hash : Hash.Digest) : List Token :=
  phrase "self :: runtime :: H256 :: from" ++ [round [byteArray hash.toList]]

/-- The fields of the type of an event. -/
def EventBinding.fieldTokens (e : EventBinding) : List Token :=
  if e.namedFields then
    [curly (commaTerminated (e.fields.map fun field =>
      phrase "pub" ++ nameToken field.name :: .mark ':' false :: typeTokens field.type))]
  else
    [round (commaTerminated (e.fields.map fun field => phrase "pub" ++ typeTokens field.type)),
      .mark ';' false]

/-- The type of an event. -/
def EventBinding.typeDefinition (e : EventBinding) (further : List (List Token)) : List Token :=
  doc ("Data of the `" ++ e.signature ++ "` event" ++
    (if e.anonymous then ", an anonymous event" else "") ++ ".") ++
  deriveAttribute ((e.derives further).map DerivedTrait.tokens) ++
  phrase "pub struct" ++ [nameToken e.identifier] ++ e.fieldTokens ++
  phrase "impl" ++ [nameToken e.identifier, curly (
    docLine "Retrieves the signature for the event this data corresponds to." ++
    docLine "This signature is the Keccak-256 hash of the ABI signature of" ++
    docLine "this event." ++
    phrase "pub fn signature" ++ [round []] ++ phrase "-> self :: runtime :: H256" ++
    [curly (hashTokens e.topic)] ++
    docLine "Retrieves the ABI signature for the event this data corresponds" ++
    docLine "to." ++
    phrase "pub fn abi_signature" ++ [round []] ++ phrase "-> & 'static str" ++
    [curly [stringLiteral e.signature]])]

/-- The type of the topic that a setter takes. -/
def Setter.topicTokens (s : Setter) : List Token :=
  match s.argument with
  | some type => typeTokens type
  | none => runtimeType "H256"

/-- What the documentation of a setter says about hashed topics. -/
def Setter.advice (s : Setter) : String :=
  match s.argument with
  | some _ => ""
  | none => " Dynamic values are matched by their Keccak-256 hash."

/-- A setter of the filter builder of an event. -/
def Setter.tokens (builder : String) (s : Setter) : List Token :=
  doc ("Filters events by the indexed `" ++ s.name ++ "` parameter." ++ s.advice) ++
  phrase "pub fn" ++ [nameToken s.name] ++
  [round (phrase "self , topic :" ++ generic (runtimeType "Topic") s.topicTokens)] ++
  phrase "-> Self" ++ [curly [nameToken builder,
    round (phrase "self . 0 . topic" ++ [round (numberLiteral s.position :: phrase ", topic")])]]

/-- The type of the untyped builder that a filter builder wraps. -/
def EventBinding.untypedBuilder (e : EventBinding) : List Token :=
  generic (runtimeType "DynEventBuilder") (phrase "super :: events ::" ++ [nameToken e.identifier])

/-- The filter builder of an event. -/
def EventBinding.builderDefinition (e : EventBinding) : List Token :=
  doc ("A builder for a filtered stream of `" ++ e.identifier ++ "` events.") ++
  phrase "pub struct" ++ [nameToken e.builder, round (phrase "pub" ++ e.untypedBuilder)] ++
  phrase "; impl" ++ [nameToken e.builder, curly (e.setters.flatMap (Setter.tokens e.builder))] ++
  phrase "impl" ++ generic (phrase "From") [nameToken e.builder] ++
  phrase "for" ++ e.untypedBuilder ++ [curly (
    phrase "fn from" ++ [round (phrase "builder :" ++ [nameToken e.builder])] ++ phrase "-> Self" ++
    [curly (phrase "builder . 0")])]

/-- The method that starts a filter of an event. An anonymous event has no topic of its own. -/
def EventBinding.accessorDefinition (e : EventBinding) : List Token :=
  docLine "Generated by `solwrap`." ++
  phrase "pub fn" ++ [nameToken e.accessor, round (phrase "& self")] ++
  phrase "-> self :: event_builders ::" ++ [nameToken e.builder, curly (
    phrase "self :: event_builders ::" ++ [nameToken e.builder,
      round (phrase "self . instance . event" ++ [round (
        if e.anonymous then phrase "None"
        else phrase "Some" ++ [round (
          phrase "self :: events ::" ++ nameToken e.identifier :: phrase ":: signature" ++
          [round []])])])])]

/-- The modules and the accessors of events; nothing without events. -/
def eventsTokens (events : List EventBinding) (further : List (List Token)) : List Token :=
  if events.isEmpty then [] else
  docLine "Module containing all generated data models for this contract's" ++
  docLine "events." ++
  phrase "pub mod events" ++ [curly (
    phrase "use super :: runtime ;" ++ events.flatMap fun e => e.typeDefinition further)] ++
  docLine "Module containing builders for filtered streams of this contract's" ++
  docLine "events." ++
  phrase "pub mod event_builders" ++ [curly (
    phrase "use super :: runtime ;" ++ events.flatMap EventBinding.builderDefinition)] ++
  phrase "impl Contract" ++ [curly (
    docLine "Retrieves a handle to a type containing for creating event" ++
    docLine "streams for all the contract events." ++
    phrase "pub fn events" ++ [round (phrase "& self")] ++ phrase "-> Events < '_ >" ++ [curly (
      phrase "Events" ++ [curly (phrase "instance : & self . instance ,")])])] ++
  docLine "Type containing filter builders for all contract events." ++
  deriveAttribute [phrase "Clone", phrase "Copy"] ++
  phrase "pub struct Events < 'a >" ++ [curly (
    phrase "instance : & 'a self :: runtime :: DynInstance ,")] ++
  phrase "impl Events < '_ >" ++ [curly (events.flatMap EventBinding.accessorDefinition)]

namespace ContractBindings

/-- The documentation of the generated module. -/
def summary (b : ContractBindings) : String :=
  "Generated bindings for the `" ++ b.contractName ++ "` contract" ++
    (if b.package = "" then "." else " in `" ++ b.package ++ "`.")

/-- The tokens inside the generated module. -/
def moduleTokens (b : ContractBindings) : List Token :=
  attributeTokens (phrase "rustfmt :: skip") ++
  phrase "use" ++ [nameToken b.setup.runtime] ++ phrase "as runtime ;" ++
  binaryTokens b.code ++
  contractTokens b.contractName ++
  b.deployment.tokens b.contractName ++
  methodsTokens b.methods ++
  eventsTokens b.events b.setup.derives

/-- The tokens of the generated module and of the contract type beside it. -/
def tokens (b : ContractBindings) : List Token :=
  doc b.summary ++
  attributeTokens [.word "allow", round (phrase "dead_code")] ++
  b.setup.visibility ++ phrase "mod" ++ [nameToken b.moduleName, curly b.moduleTokens] ++
  b.setup.visibility ++ phrase "use self ::" ++ [nameToken b.moduleName] ++
  phrase ":: Contract as" ++ [nameToken b.contractName] ++ phrase ";"

/-- The text of the generated code. -/
def source (b : ContractBindings) : String :=
  render b.tokens

end ContractBindings

end AbiBindings.Bindings
