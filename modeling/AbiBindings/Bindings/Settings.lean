import AbiBindings.Bindings.TypeDescriptor
import AbiBindings.Code.Derive
import AbiBindings.Code.Visibility
import AbiBindings.Naming.Resolution

/-!
# Settings

What a caller can set, and the `Setup` that is made of it once every setting has been checked:
names are identifiers, the visibility and the derived traits are code, and no signature has two
aliases.
-/

set_option autoImplicit false

namespace AbiBindings.Bindings

/-- The settings of the generator. -/
structure Settings where
  /-- The name of the crate that the generated code calls. -/
  runtime : String := "solwrap_runtime"
  /-- The visibility of the generated module and of the contract type. -/
  visibility : Option String := none
  /-- The name of the generated module, in place of one made from the contract name. -/
  moduleName : Option String := none
  /-- The name of the contract type, in place of the contract name. -/
  contractName : Option String := none
  /-- The package of the contract: names separated by points or colons. -/
  package : String := ""
  /-- How integers are represented. -/
  policy : TypePolicy := .native
  /-- Names of methods by signature. -/
  aliases : List (String × String) := []
  /-- Further traits that the types of events derive. -/
  derives : List String := []
  /-- Whether the generated code is to be formatted. -/
  format : Bool := true

/-- The settings as the generator uses them. -/
structure Setup where
  contractName : String
  moduleName : String
  runtime : String
  visibility : List Code.Token
  aliases : Naming.Aliases
  derives : List (List Code.Token)

/-- A configured name as an identifier. The raw form is refused. -/
def plainIdentifier (what name : String) : Except GenerateError String :=
  match Code.identifier? name with
  | some word =>
    if ['r', '#'].isPrefixOf name.toList then .error (.config (.notIdentifier what name))
    else .ok word
  | none => .error (.config (.notIdentifier what name))

/-- The tokens of a visibility modifier; none if it is not set. -/
def visibilityTokens : Option String → Except GenerateError (List Code.Token)
  | none => .ok []
  | some text =>
    match Code.visibility text with
    | .ok tokens => .ok tokens
    | .error fault => .error (.config (.visibility text fault))

/-- The name of the generated module. -/
def moduleIdentifier (contract : String) : Option String → Except GenerateError String
  | some name => plainIdentifier "module name" name
  | none => .ok (Naming.snakeName contract)

/-- Checks aliases one after the other. `earlier` holds those before them. -/
def checkAliases (earlier : Naming.Aliases) : Naming.Aliases → Except GenerateError Naming.Aliases
  | [] => .ok earlier
  | (signature, name) :: rest => do
    let _ ← plainIdentifier "method alias" name
    if (earlier.lookup signature).isSome then .error (.config (.repeatedAlias signature))
    else checkAliases (earlier ++ [(signature, name)]) rest

/-- The tokens of each derived trait. -/
def deriveTokens : List String → Except GenerateError (List (List Code.Token))
  | [] => .ok []
  | text :: rest =>
    match Code.path text with
    | .ok tokens => do .ok (tokens :: (← deriveTokens rest))
    | .error (.unreadable what) => .error (.unreadable what)
    | .error fault => .error (.config (.derive text fault))

/-- Checks the settings for a contract. -/
def Settings.setup (settings : Settings) (name : String) : Except GenerateError Setup := do
  let contract := settings.contractName.getD name
  if contract = "" then .error (.config .emptyContractName)
  else
    let contractName ← plainIdentifier "contract name" contract
    let runtime ← plainIdentifier "runtime crate name" settings.runtime
    let visibility ← visibilityTokens settings.visibility
    let moduleName ← moduleIdentifier contract settings.moduleName
    let aliases ← checkAliases [] settings.aliases
    let derives ← deriveTokens settings.derives
    .ok { contractName, moduleName, runtime, visibility, aliases, derives }

end AbiBindings.Bindings
