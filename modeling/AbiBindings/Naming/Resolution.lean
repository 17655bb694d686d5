import AbiBindings.Error
import AbiBindings.Naming.Casing
import AbiBindings.Naming.Overload

/-!
# Names of functions and events

Every function and every event gets an accessor, the name of its method, and an identifier, the
name of its type: for a function these are the same. A name that several entries share gets the
suffix of their types. An alias, which is given for a signature, replaces both names. No two
entries may end up with the same accessor or the same identifier.
-/

set_option autoImplicit false

namespace AbiBindings.Naming

open Abi

/-- An entry with the names that it is emitted under. -/
structure Resolved where
  entry : Entry
  /-- The types of the inputs. -/
  types : List ParamType
  signature : String
  /-- The name of the type of an event; for a function the same as the accessor. -/
  identifier : String
  /-- The name of the method. -/
  accessor : String

/-- Aliases by signature. -/
abbrev Aliases := List (String × String)

/-- The signature of a name and a list of types. -/
def signatureText (name : String) (types : List ParamType) : String :=
  name ++ "(" ++ Text.join "," (types.map ParamType.canonical) ++ ")"

/-- Where the inputs of an entry stand. -/
def locationOf (e : Entry) : Location :=
  if e.kind = .event then .event e.title else .function e.title

/-- The types of the inputs of each entry. -/
def inputTypes : List Entry → Except GenerateError (List (Entry × List ParamType))
  | [] => .ok []
  | e :: rest =>
    match e.inputTypes with
    | .error error => .error (.ofType (locationOf e) error)
    | .ok types =>
      match inputTypes rest with
      | .ok others => .ok ((e, types) :: others)
      | .error error => .error error

/-- Whether several entries share a name. -/
def isOverloaded (entries : List Entry) (name : String) : Bool :=
  entries.countP (fun e => e.title = name) > 1

/-- The suffix of an entry, if it needs one. -/
def suffix? (entries : List Entry) (e : Entry) (types : List ParamType) : Option String :=
  if isOverloaded entries e.title then some (overloadSuffix types) else none

/-- The name of a method. -/
def accessorOf (name : String) (suffix : Option String) : String :=
  match suffix with
  | some text => snakeName name ++ "_" ++ text
  | none => snakeName name

/-- The name of the type of an event: the words of the suffix start with capitals, too. -/
def eventIdentifier (name : String) (suffix : Option String) : String :=
  match suffix with
  | some text => pascalName name ++ String.join ((Text.split (· == '_') text).map capitalize)
  | none => pascalName name

/-- The names of an entry among all entries. -/
def resolveOne (aliases : Aliases) (entries : List Entry) (e : Entry) (types : List ParamType) :
    Resolved :=
  let signature := signatureText e.title types
  match aliases.lookup signature with
  | some name => ⟨e, types, signature, name, name⟩
  | none =>
    let suffix := suffix? entries e types
    let accessor := accessorOf e.title suffix
    let identifier := if e.kind = .event then eventIdentifier e.title suffix else accessor
    ⟨e, types, signature, identifier, accessor⟩

/-- The first entry whose key repeats the key of an entry before it, with that entry. -/
def repetition? (key : Resolved → String) (before : List Resolved) :
    List Resolved → Option (Resolved × Resolved)
  | [] => none
  | r :: rest =>
    match before.find? (fun earlier => key earlier = key r) with
    | some earlier => some (earlier, r)
    | none => repetition? key (before ++ [r]) rest

/-- Checks that a key tells all entries apart. -/
def checkUnique (key : Resolved → String) (resolved : List Resolved) :
    Except GenerateError Unit :=
  match repetition? key [] resolved with
  | some (first, second) => .error (.collision (key second) first.signature second.signature)
  | none => .ok ()

/-- The names of all entries, in order. -/
def resolve (aliases : Aliases) (entries : List Entry) :
    Except GenerateError (List Resolved) := do
  let typed ← inputTypes entries
  let resolved := typed.map fun (e, types) => resolveOne aliases entries e types
  checkUnique Resolved.accessor resolved
  checkUnique Resolved.identifier resolved
  .ok resolved

end AbiBindings.Naming
