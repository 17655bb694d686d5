import AbiBindings.Abi.TypeText
import AbiBindings.Hash.Keccak
import AbiBindings.Text.Hex
import AbiBindings.Text.Utf8

/-!
# Entries of a contract interface

An interface is a list of entries: a constructor, functions, events, errors and the entries that
handle other calls. The signature of an entry is its name with the canonical types of its inputs;
the selector and the topic are taken from the hash of the signature.
-/

set_option autoImplicit false

namespace AbiBindings.Abi

/-- What an entry declares. -/
inductive EntryKind where
  | constructor
  | function
  | event
  | fallback
  | receive
  | error
  deriving DecidableEq, Repr

/-- The kinds of entries by their names. -/
def EntryKind.names : List (String × EntryKind) := [
  ("constructor", .constructor), ("function", .function), ("event", .event),
  ("fallback", .fallback), ("receive", .receive), ("error", .error)]

/-- The name of a kind. -/
def EntryKind.name : EntryKind → String
  | .constructor => "constructor"
  | .function => "function"
  | .event => "event"
  | .fallback => "fallback"
  | .receive => "receive"
  | .error => "error"

/-- What calling a function may do to the state of its contract. -/
inductive Mutability where
  | pure
  | view
  | nonpayable
  | payable
  deriving DecidableEq, Repr

/-- The mutabilities by their names. -/
def Mutability.names : List (String × Mutability) := [
  ("pure", .pure), ("view", .view), ("nonpayable", .nonpayable), ("payable", .payable)]

/-- The name of a mutability. -/
def Mutability.name : Mutability → String
  | .pure => "pure"
  | .view => "view"
  | .nonpayable => "nonpayable"
  | .payable => "payable"

/-- Whether a call leaves the state as it is. -/
def Mutability.isReadOnly : Mutability → Bool
  | .pure => true
  | .view => true
  | _ => false

/-- An entry of an interface. -/
structure Entry where
  kind : EntryKind
  /-- The name, if the kind has one. -/
  name : Option String
  inputs : List Parameter
  outputs : List Parameter
  mutability : Mutability
  /-- Whether an event is logged without its signature. -/
  anonymous : Bool

/-- The signature of a name and a list of types. -/
def signatureOf (name : String) (types : List ParamType) : String :=
  name ++ ParamType.canonicalTuple types

/-- The types of a list of parameters, or the first parameter that has none. -/
def typesOf : List Parameter → Except TypeError (List ParamType)
  | [] => .ok []
  | p :: rest => do
    let type ← p.paramType
    let types ← typesOf rest
    .ok (type :: types)

namespace Entry

/-- The name of an entry, empty for an entry without one. -/
def title (e : Entry) : String :=
  e.name.getD ""

/-- The types of the inputs. -/
def inputTypes (e : Entry) : Except TypeError (List ParamType) :=
  typesOf e.inputs

/-- The signature. -/
def signature (e : Entry) : Except TypeError String := do
  .ok (signatureOf e.title (← e.inputTypes))

/-- The hash of the signature, under which an event is logged. -/
def topic (e : Entry) : Except TypeError Hash.Digest := do
  .ok (Hash.keccak256 (Text.Utf8.encode (← e.signature)))

/-- The first four bytes of the hash of the signature, under which a function is called. -/
def selector (e : Entry) : Except TypeError (Vector UInt8 4) := do
  .ok (Hash.selector (← e.topic))

/-- The text of the selector. -/
def selectorHex (e : Entry) : Except TypeError String := do
  .ok ("0x" ++ Text.hexOfBytes (← e.selector).toList)

end Entry

/-- The interface of a contract. -/
structure Interface where
  entries : List Entry

namespace Interface

/-- The entries of a kind, in order. -/
def ofKind (abi : Interface) (kind : EntryKind) : List Entry :=
  abi.entries.filter fun e => e.kind = kind

/-- The first constructor. -/
def constructor? (abi : Interface) : Option Entry :=
  (abi.ofKind .constructor).head?

/-- The functions, in order. -/
def functions (abi : Interface) : List Entry :=
  abi.ofKind .function

/-- The events, in order. -/
def events (abi : Interface) : List Entry :=
  abi.ofKind .event

end Interface

end AbiBindings.Abi
