import AbiBindings.Abi.Loader
import AbiBindings.Code.SyntaxFault

/-!
# Errors of the generator

Why no bindings are generated for a contract. There are no partial bindings: the first error ends
the generation.
-/

set_option autoImplicit false

namespace AbiBindings

/-- A setting that makes no sense. -/
inductive ConfigFault where
  | emptyContractName
  /-- A name for `what` that is no identifier. -/
  | notIdentifier (what name : String)
  | visibility (text : String) (fault : Code.SyntaxFault)
  /-- A signature with two aliases. -/
  | repeatedAlias (signature : String)
  | derive (text : String) (fault : Code.SyntaxFault)
  /-- A fault that is given in words. -/
  | other (text : String)
  deriving DecidableEq, Repr

/-- The text of a fault in the settings. -/
def ConfigFault.message : ConfigFault → String
  | .emptyContractName => "contract name is empty"
  | .notIdentifier what name => what ++ " '" ++ name ++ "' is not a valid identifier"
  | .visibility text fault => "invalid visibility modifier '" ++ text ++ "': " ++ fault.message
  | .repeatedAlias signature =>
    "duplicate method signature '" ++ signature ++ "' in method aliases"
  | .derive text fault => "failed to parse event derive '" ++ text ++ "': " ++ fault.message
  | .other text => text

/-- Where in an interface a type stands. -/
inductive Location where
  | constructor
  | function (name : String)
  | event (name : String)
  deriving DecidableEq, Repr

/-- The text of a location. -/
def Location.describe : Location → String
  | .constructor => "constructor"
  | .function name => "function " ++ name
  | .event name => "event " ++ name

/-- Why no bindings are generated. -/
inductive GenerateError where
  /-- The interface cannot be loaded. -/
  | malformedAbi (error : Abi.LoadError)
  /-- The interface has no entries. -/
  | emptyAbi
  /-- The text of a type that is none. -/
  | unsupportedType (raw : String) (location : Location)
  /-- Two members, given by their signatures, would have the same name. -/
  | collision (identifier first second : String)
  /-- Reading an input or writing the output failed. -/
  | io (text : String)
  /-- The settings make no sense. -/
  | config (fault : ConfigFault)
  /-- A name that would have to be written is no identifier: the generator gives up altogether. -/
  | unwritable (name : String)
  /-- A derived trait holds code of a kind that no reader knows: the generator gives up
  altogether. -/
  | unreadable (text : String)
  deriving DecidableEq, Repr

namespace GenerateError

/-- The text of an error. -/
def message : GenerateError → String
  | .malformedAbi error => "malformed ABI: " ++ error.message
  | .emptyAbi => "unable to parse input ABI: it contains no entries"
  | .unsupportedType raw location =>
    "unsupported type '" ++ raw ++ "' in " ++ location.describe
  | .collision identifier first second =>
    "identifier '" ++ identifier ++ "' is emitted for both " ++ first ++ " and " ++ second
  | .io text => "I/O error: " ++ text
  | .config fault => "invalid configuration: " ++ fault.message
  | .unwritable name => Text.Quoted.quote name ++ " is not a valid identifier"
  | .unreadable text => "no reading is known for " ++ Text.Quoted.quote text

/-- The error of an interface that cannot be loaded. An empty interface and a failure to read keep
errors of their own. -/
def ofLoad : Abi.LoadError → GenerateError
  | .empty => .emptyAbi
  | .unreadable text => .io text
  | error => .malformedAbi error

/-- The error of a type that is none. -/
def ofType (location : Location) (error : Abi.TypeError) : GenerateError :=
  .unsupportedType error.raw location

end GenerateError

/-- An error and the contract whose bindings it prevents. -/
structure GenerationFailure where
  contract : String
  source : GenerateError
  deriving DecidableEq, Repr

/-- The text of a failure. -/
def GenerationFailure.message (failure : GenerationFailure) : String :=
  "failed to generate contract " ++ failure.contract ++ ": " ++ failure.source.message

end AbiBindings
