import AbiBindings.Abi.Document

/-!
# Loading an interface

Loading reads the declarations of a document and checks them. It gives the whole interface or an
error; an interface without entries is an error, too, unless it is allowed.
-/

set_option autoImplicit false

namespace AbiBindings.Abi

/-- Why an interface cannot be loaded. -/
inductive LoadError where
  /-- The document cannot be read. -/
  | unreadable (text : String)
  /-- The document is no JSON array of declarations. -/
  | malformed (fault : Json.Fault)
  /-- A declaration breaks a rule. -/
  | invalidEntry (index : Nat) (fault : EntryFault)
  /-- The document has no declarations. -/
  | empty
  deriving DecidableEq, Repr

/-- The text of a load error. -/
def LoadError.message : LoadError → String
  | .unreadable text => "failed to read ABI document: " ++ text
  | .malformed fault => "failed to parse ABI JSON: " ++ fault.message
  | .invalidEntry index fault =>
    "entry " ++ toString index ++ " is invalid: " ++ fault.message
  | .empty => "ABI contains no entries"

/-- Whether an interface could not be loaded because it has no entries. -/
def LoadError.isEmpty : LoadError → Bool
  | .empty => true
  | _ => false

/-- Reads the declarations of a document. -/
def readDeclarations (delivery : Json.Delivery) (document : List UInt8) :
    Except Json.Fault (List Declaration) :=
  (Json.Reader.document declarations (Json.Cursor.start delivery document)).1

/-- The interface of a list of declarations. -/
def loadDeclarations (allowEmpty : Bool) (declarations : List Declaration) :
    Except LoadError Interface :=
  if declarations.isEmpty && !allowEmpty then .error .empty
  else
    match interface declarations with
    | .ok abi => .ok abi
    | .error (index, fault) => .error (.invalidEntry index fault)

/-- Loads an interface from a document. -/
def load (allowEmpty : Bool) (delivery : Json.Delivery) (document : List UInt8) :
    Except LoadError Interface :=
  match readDeclarations delivery document with
  | .ok declarations => loadDeclarations allowEmpty declarations
  | .error fault => .error (.malformed fault)

end AbiBindings.Abi
