import AbiBindings.Abi.Entry

/-!
# Declarations and their rules

A declaration is an entry as the document states it. `Declaration.fault?` tests the rules that one
declaration must obey, in their order, and `interface` checks all declarations of a document: it
gives either an entry for each of them or the first that breaks a rule.
-/

set_option autoImplicit false

namespace AbiBindings.Abi

/-- An entry as the document states it. -/
structure Declaration where
  kind : EntryKind
  name : Option String
  inputs : List Parameter
  outputs : List Parameter
  mutability : Option Mutability
  /-- The older way to say that a function only reads. -/
  constant : Bool
  /-- The older way to say that a function takes payments. -/
  payable : Bool
  anonymous : Bool

/-- A rule that a declaration breaks. -/
inductive EntryFault where
  | missingName
  | repeatedConstructor
  | strayOutputs
  | tooManyIndexed
  /-- A rule that is given in words. -/
  | other (text : String)
  deriving DecidableEq, Repr

/-- The text of a broken rule. -/
def EntryFault.message : EntryFault → String
  | .missingName => "missing name"
  | .repeatedConstructor => "duplicate constructor"
  | .strayOutputs => "only functions may declare outputs"
  | .tooManyIndexed => "too many indexed parameters"
  | .other text => text

/-- Whether entries of a kind must have a name. -/
def EntryKind.needsName : EntryKind → Bool
  | .function => true
  | .event => true
  | .error => true
  | _ => false

namespace Declaration

/-- The name, unless it is empty. -/
def givenName (d : Declaration) : Option String :=
  d.name.filter (· ≠ "")

/-- The number of inputs that an event may index. -/
def indexLimit (d : Declaration) : Nat :=
  if d.anonymous then 4 else 3

/-- The number of inputs that are indexed. -/
def indexedCount (d : Declaration) : Nat :=
  d.inputs.countP (·.indexed)

/-- The first rule that a declaration breaks. `behindConstructor` tells whether a constructor
stands before it. -/
def fault? (behindConstructor : Bool) (d : Declaration) : Option EntryFault :=
  if d.kind.needsName && d.givenName.isNone then some .missingName
  else if d.kind = .constructor ∧ behindConstructor then some .repeatedConstructor
  else if d.kind ≠ .function ∧ !d.outputs.isEmpty then some .strayOutputs
  else if d.kind = .event ∧ d.indexedCount > d.indexLimit then some .tooManyIndexed
  else none

/-- The mutability that is declared, or else what the older flags say. -/
def effectiveMutability (d : Declaration) : Mutability :=
  match d.mutability with
  | some m => m
  | none => if d.payable then .payable else if d.constant then .view else .nonpayable

/-- The entry of a declaration that obeys the rules: names, indexing and anonymity remain only for
the kinds that have them. -/
def entry (d : Declaration) : Entry where
  kind := d.kind
  name := if d.kind.needsName then d.givenName else none
  inputs := if d.kind = .event then d.inputs else d.inputs.map Parameter.unindexed
  outputs := d.outputs
  mutability := d.effectiveMutability
  anonymous := d.kind = .event && d.anonymous

end Declaration

/-- Checks declarations from a given index on. -/
def checkFrom (index : Nat) (behindConstructor : Bool) :
    List Declaration → Except (Nat × EntryFault) (List Entry)
  | [] => .ok []
  | d :: rest =>
    match d.fault? behindConstructor with
    | some fault => .error (index, fault)
    | none =>
      match checkFrom (index + 1) (behindConstructor || d.kind = .constructor) rest with
      | .ok entries => .ok (d.entry :: entries)
      | .error e => .error e

/-- The interface of a list of declarations, or the index of the first that breaks a rule. -/
def interface (declarations : List Declaration) : Except (Nat × EntryFault) Interface :=
  (checkFrom 0 false declarations).map Interface.mk

end AbiBindings.Abi
