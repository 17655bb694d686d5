import AbiBindings.Proofs.CodeParts
import AbiBindings.Proofs.Literals
import AbiBindings.Proofs.Members
import AbiBindings.Proofs.Signature

/-!
# Signatures and hashes agree

The signature of an entry is put together in two places, by the interface and where names are
resolved, and its hash is written in three forms: as bytes that a method passes on, as hexadecimal
digits in its documentation, and as bytes that the type of an event holds. All of them are read back
from the generated code, and are those of the entry (`signatures_and_hashes_agree`).
-/

set_option autoImplicit false

/-! ## Resolution -/

namespace AbiBindings.Naming

open Abi Bindings

/-- Whether a text is the signature of an entry with inputs of given types: the name of the entry,
and behind it in brackets the canonical texts of the types with commas between them. -/
structure IsSignatureOf (e : Entry) (types : List ParamType) (signature : String) : Prop where
  inputs : e.inputTypes = .ok types
  text : signature = e.title ++ "(" ++ Text.join "," (types.map ParamType.canonical) ++ ")"
  /-- The interface says the same. -/
  interface : e.signature = .ok signature

/-- Whether a resolved entry has the types and the signature of an entry of the interface. -/
structure Agrees (e : Entry) (r : Resolved) : Prop where
  entry : r.entry = e
  signature : IsSignatureOf e r.types r.signature

/-- What resolution takes for the signature of an entry is its signature. -/
theorem isSignatureOf_resolveOne (aliases : Aliases) (entries : List Entry) {e : Entry}
    (h : AllTyped e.inputs) :
    IsSignatureOf e e.types (resolveOne aliases entries e e.types).signature := by
  rw [signature_resolveOne]
  exact ⟨Entry.inputTypes_eq_types h, (signatureText_eq _ _).symm, signature_of_allTyped h⟩

/-- An entry agrees with what becomes of it. -/
theorem agrees_resolveOne (aliases : Aliases) (entries : List Entry) {e : Entry}
    (h : AllTyped e.inputs) : Agrees e (resolveOne aliases entries e e.types) := by
  refine ⟨entry_resolveOne _ _ _ _, ?_⟩
  rw [types_resolveOne]
  exact isSignatureOf_resolveOne aliases entries h

/-- Entries agree with what they are resolved to, one by one. -/
theorem forall₂_agrees {aliases : Aliases} {entries : List Entry} {resolved : List Resolved}
    (h : resolve aliases entries = .ok resolved) : List.Forall₂ Agrees entries resolved := by
  obtain ⟨htyped, -, rfl⟩ := resolve_eq_ok_iff.1 h
  rw [candidates, List.forall₂_map_right_iff, List.forall₂_same]
  intro e he
  exact agrees_resolveOne aliases entries (htyped e he)

end AbiBindings.Naming

/-! ## Reading code -/

namespace AbiBindings.Code

/-- The tokens in the first curly brackets. -/
def block? : List Token → Option (List Token)
  | [] => none
  | .group .curly body :: _ => some body
  | _ :: rest => block? rest

/-- The body of the first function of a name. -/
def functionBody? (name : String) : List Token → Option (List Token)
  | [] => none
  | .word "fn" :: .word other :: rest =>
    if other = name then block? rest else functionBody? name rest
  | _ :: rest => functionBody? name rest

/-- The text of the documentation at the front. -/
def docText? : List Token → Option String
  | .mark '#' _ :: .group .square [.word "doc", .mark '=' _, text] :: _ => stringValue? text
  | _ => none

/-- The text of a comment is read back. -/
theorem docText?_doc (s : String) (rest : List Token) : docText? (doc s ++ rest) = some s :=
  stringValue?_stringLiteral s

/-- Whether a function ends by passing on an array of bytes to an operation of its instance, before
all other values. -/
def Passes (bytes : List UInt8) (tokens : List Token) : Prop :=
  ∃ front operation array values,
    tokens = front ++ [curly (phrase "self . instance ." ++ [operation] ++
      [round (array :: phrase "," ++ [values])])] ∧
    byteArray? array = some bytes

/-- Whether code ends in a block with two functions, one that gives a hash and one that gives a
text. -/
def Holds (hash : List UInt8) (text : String) (tokens : List Token) : Prop :=
  ∃ front body array literal, tokens = front ++ [curly body] ∧
    functionBody? "signature" body =
      some (phrase "self :: runtime :: H256 :: from" ++ [round [array]]) ∧
    byteArray? array = some hash ∧
    functionBody? "abi_signature" body = some [literal] ∧ stringValue? literal = some text

end AbiBindings.Code

namespace AbiBindings.Bindings

open Abi Traversal

/-! ## Methods -/

/-- Whether the documentation of a method shows the selector of a function: behind its signature the
text that the interface gives, which is the bytes of the selector in lower-case digits. -/
def ShowsSelector (e : Entry) (m : Method) : Prop :=
  ∃ digits behind, e.selectorHex = .ok ("0x" ++ digits) ∧
    Code.docText? m.tokens = some ("Generated by `solwrap` for `" ++ m.signature ++
      "` (selector `0x" ++ digits ++ "`" ++ behind) ∧
    (∀ c ∈ digits.toList, Text.IsLowerHex c) ∧
    Text.hexBytes? digits.toList = some m.selector.toList

/-- Whether the method of a function, which stands in the generated code, is called under the hash
of its signature and says so. -/
structure MethodAgrees (code : List Code.Token) (e : Entry) (m : Method) : Prop where
  written : Code.StandsIn m.tokens code
  signature : ∃ types, Naming.IsSignatureOf e types m.signature
  selector : e.selector = .ok m.selector
  hash : m.selector.toList = (Hash.keccak256 (Text.Utf8.encode m.signature)).toList.take 4
  passes : Code.Passes m.selector.toList m.tokens
  shows : ShowsSelector e m

/-- A selector is the first four bytes of a digest. -/
theorem toList_selector (d : Hash.Digest) : (Hash.selector d).toList = d.toList.take 4 := by
  apply List.ext_getElem
  · simp
  · intro i hi hi'
    simp [Hash.selector, Vector.get]

/-- The selector of an entry is that of the hash of its signature. -/
theorem selector_of_signature {e : Entry} {signature : String} (h : e.signature = .ok signature) :
    e.selector = .ok (Hash.selector (Hash.keccak256 (Text.Utf8.encode signature))) := by
  rw [Entry.selector, Entry.topic, h]
  rfl

/-- The topic of an entry is the hash of its signature. -/
theorem topic_of_signature {e : Entry} {signature : String} (h : e.signature = .ok signature) :
    e.topic = .ok (Hash.keccak256 (Text.Utf8.encode signature)) := by
  rw [Entry.topic, h]
  rfl

/-- A method passes the bytes of its selector. -/
theorem passes_tokens (m : Method) : Code.Passes m.selector.toList m.tokens := by
  have hread := Code.byteArray?_byteArray m.selector.toList
  exact ⟨_, _, _, _, rfl, hread⟩

/-- The comment of a method shows its signature and the digits of its selector. -/
theorem docText?_tokens (m : Method) :
    ∃ behind, Code.docText? m.tokens = some ("Generated by `solwrap` for `" ++ m.signature ++
      "` (selector `0x" ++ m.selectorDigits ++ "`" ++ behind) := by
  have hsplit : "`), a `" = "`" ++ "), a `" := by decide
  have htokens : ∃ rest, m.tokens = Code.doc ("Generated by `solwrap` for `" ++ m.signature ++
      "` (selector `0x" ++ m.selectorDigits ++ "`), a `" ++ m.mutability.name ++
      "` function. " ++ callingAdvice m.mutability) ++ rest := by
    unfold Method.tokens
    simp only [List.append_assoc]
    exact ⟨_, rfl⟩
  obtain ⟨rest, hrest⟩ := htokens
  rw [hrest, Code.docText?_doc, hsplit]
  refine ⟨"), a `" ++ m.mutability.name ++ "` function. " ++ callingAdvice m.mutability, ?_⟩
  simp only [String.append_assoc]

/-- A method shows the digits of its selector as the interface does. -/
theorem showsSelector_of_selector {e : Entry} {m : Method} (h : e.selector = .ok m.selector) :
    ShowsSelector e m := by
  have hdigits : m.selectorDigits = Text.hexOfBytes m.selector.toList := Text.join_paddedHex _
  have hhex : e.selectorHex = .ok ("0x" ++ m.selectorDigits) := by
    rw [Entry.selectorHex, h, hdigits]
    rfl
  obtain ⟨behind, hdoc⟩ := docText?_tokens m
  refine ⟨m.selectorDigits, behind, hhex, hdoc, ?_, ?_⟩
  · rw [hdigits]
    exact fun c => Text.isLowerHex_of_mem_hexOfBytes
  · rw [hdigits]
    exact Text.hexBytes?_hexOfBytes _

/-- The method that is made for a function agrees with it. -/
theorem methodAgrees_of_method {aliases : Naming.Aliases} {entries : List Entry}
    {policy : TypePolicy} {code : List Code.Token} {e : Entry} {m : Method}
    (htyped : AllTyped e.inputs)
    (h : method policy (Naming.resolveOne aliases entries e e.types) = .ok m)
    (hwritten : Code.StandsIn m.tokens code) : MethodAgrees code e m := by
  have hof := method_eq_ok h
  have hsignature := Naming.isSignatureOf_resolveOne aliases entries htyped
  rw [← hof.signature] at hsignature
  have hhash : m.selector = Hash.selector (Hash.keccak256 (Text.Utf8.encode m.signature)) := by
    rw [hof.selector, hof.signature]
  have hselector : e.selector = .ok m.selector := by
    rw [selector_of_signature hsignature.interface, hhash]
  refine ⟨hwritten, ⟨_, hsignature⟩, hselector, ?_, passes_tokens m,
    showsSelector_of_selector hselector⟩
  rw [hhash, toList_selector]

/-! ## Events -/

/-- Whether the type of an event, which stands in the generated code, holds the hash and the text of
the signature. -/
structure EventAgrees (code : List Code.Token) (further : List (List Code.Token)) (e : Entry)
    (binding : EventBinding) : Prop where
  written : Code.StandsIn (binding.typeDefinition further) code
  signature : ∃ types, Naming.IsSignatureOf e types binding.signature
  topic : e.topic = .ok binding.topic
  hash : binding.topic = Hash.keccak256 (Text.Utf8.encode binding.signature)
  holds : Code.Holds binding.topic.toList binding.signature (binding.typeDefinition further)

/-- The type of an event holds the bytes of its topic and its signature. -/
theorem holds_typeDefinition (binding : EventBinding) (further : List (List Code.Token)) :
    Code.Holds binding.topic.toList binding.signature (binding.typeDefinition further) := by
  have hhash := Code.byteArray?_byteArray binding.topic.toList
  have htext := Code.stringValue?_stringLiteral binding.signature
  have hblock : ∀ (front : List Code.Token) (name block : Code.Token),
      front ++ [name, block] = front ++ [name] ++ [block] := by simp
  refine ⟨_, _, _, _, hblock _ _ _, ?_, hhash, ?_, htext⟩
  · rfl
  · rfl

/-- The binding that is made for an event agrees with it. -/
theorem eventAgrees_of_event {aliases : Naming.Aliases} {entries : List Entry}
    {policy : TypePolicy} {code : List Code.Token} {further : List (List Code.Token)} {e : Entry}
    {binding : EventBinding} (htyped : AllTyped e.inputs)
    (h : event policy (Naming.resolveOne aliases entries e e.types) = .ok binding)
    (hwritten : Code.StandsIn (binding.typeDefinition further) code) :
    EventAgrees code further e binding := by
  have hof := event_eq_ok h
  have hsignature := Naming.isSignatureOf_resolveOne aliases entries htyped
  rw [← hof.signature] at hsignature
  have hhash : binding.topic = Hash.keccak256 (Text.Utf8.encode binding.signature) := by
    rw [hof.topic, hof.signature]
  have htopic : e.topic = .ok binding.topic := by
    rw [topic_of_signature hsignature.interface, hhash]
  exact ⟨hwritten, ⟨_, hsignature⟩, htopic, hhash, holds_typeDefinition binding further⟩

/-! ## What hashes depend on -/

/-- Entries have the same signature exactly if they agree in name and types, and then they have the
same hash. -/
theorem signature_eq_iff {e other : Entry} {types others : List ParamType}
    (h : e.inputTypes = .ok types) (hother : other.inputTypes = .ok others) :
    e.signature = other.signature ↔
      e.title = other.title ∧ types.map ParamType.unnamed = others.map ParamType.unnamed := by
  have hsignature : e.signature = .ok (signatureOf e.title types) := by
    rw [Entry.signature, h]
    rfl
  have hsignature' : other.signature = .ok (signatureOf other.title others) := by
    rw [Entry.signature, hother]
    rfl
  rw [hsignature, hsignature', ← signatureOf_inj]
  exact ⟨Except.ok.inj, congrArg Except.ok⟩

/-- Entries with one signature have the same hashes. -/
theorem hashes_eq_of_signature_eq {e other : Entry} (h : e.signature = other.signature) :
    e.selector = other.selector ∧ e.topic = other.topic := by
  have htopic : e.topic = other.topic := by
    rw [Entry.topic, Entry.topic, h]
  refine ⟨?_, htopic⟩
  rw [Entry.selector, Entry.selector, htopic]

/-- Signatures and hashes agree wherever they are made and written. Resolution gives every entry its
own types and its own signature, under whatever aliases: its name with the canonical texts of its
types. In generated bindings, all methods and all types of events stand in the generated code, and
nothing else in their blocks. The method of a function passes on the four bytes of its selector and
shows their hexadecimal text, and the type of an event holds the 32 bytes of its topic and the text
of its signature. They depend on the name that the entry has in the interface and on its types
alone, not on the names of components or members. -/
theorem signatures_and_hashes_agree :
    (∀ (aliases : Naming.Aliases) (entries : List Entry) (resolved : List Naming.Resolved),
      Naming.resolve aliases entries = .ok resolved →
        List.Forall₂ Naming.Agrees entries resolved) ∧
    (∀ (settings : Settings) (name : String) (abi : Interface) (code : Bytecode)
      (b : ContractBindings), generate settings name abi code = .ok b →
        MembersStand b ∧ List.Forall₂ (MethodAgrees b.tokens) abi.functions b.methods ∧
          List.Forall₂ (EventAgrees b.tokens b.setup.derives) abi.events b.events) ∧
    ∀ (e other : Entry) (types others : List ParamType), e.inputTypes = .ok types →
      other.inputTypes = .ok others → e.title = other.title →
      types.map ParamType.unnamed = others.map ParamType.unnamed →
        e.signature = other.signature ∧ e.selector = other.selector ∧ e.topic = other.topic := by
  refine ⟨fun aliases entries resolved => Naming.forall₂_agrees, ?_, ?_⟩
  · intro settings name abi code b h
    obtain ⟨setup, d, ms, es, -, hprepared, -, hms, hes, rfl⟩ := generate_eq_ok h
    rw [methods_eq_mapM] at hms
    rw [events_eq_mapM] at hes
    refine ⟨membersStand _, ?_, ?_⟩
    · exact forall₂_of_candidates hprepared.functionInputs hms fun _ _ _ hm htyped hmethod =>
        methodAgrees_of_method htyped hmethod (method_standsIn hm)
    · exact forall₂_of_candidates hprepared.eventInputs hes fun _ _ _ he htyped hevent =>
        eventAgrees_of_event htyped hevent (typeDefinition_standsIn he)
  · intro e other types others h hother htitle htypes
    have hsignature := (signature_eq_iff h hother).2 ⟨htitle, htypes⟩
    exact ⟨hsignature, hashes_eq_of_signature_eq hsignature⟩

/-- A function that takes a range, by the names of the bounds of the range. -/
def tollEntry (low high : String) : Entry :=
  ⟨.function, some "charge", [⟨"range", "tuple", [⟨low, "uint8", [], false⟩,
    ⟨high, "uint8", [], false⟩], false⟩], [], .payable, false⟩

/-- An interface with overloads, one of which has an alias, and with an event. -/
def tollInterface : Interface :=
  ⟨[tollEntry "low" "high",
    ⟨.function, some "charge", [⟨"payer", "address", [], false⟩], [], .nonpayable, false⟩,
    ⟨.event, some "Charged", [⟨"payer", "address", [], true⟩], [], .nonpayable, false⟩]⟩

/-- The alias of the toll. -/
def tollSettings : Settings := { aliases := [("charge((uint8,uint8))", "chargeRange")] }

/-- The methods and the event of the toll have the hashes of their entries, and the one with an
alias has the hash that it has with other bounds. -/
theorem signatures_and_hashes_agree_toll :
    (∃ resolved, Naming.resolve tollSettings.aliases tollInterface.functions = .ok resolved ∧
      List.Forall₂ Naming.Agrees tollInterface.functions resolved) ∧
    (∃ b, generate tollSettings "Toll" tollInterface .notProvided = .ok b ∧
      List.Forall₂ (MethodAgrees b.tokens) tollInterface.functions b.methods ∧
      List.Forall₂ (EventAgrees b.tokens b.setup.derives) tollInterface.events b.events) ∧
    (tollEntry "low" "high").selector = (tollEntry "least" "").selector := by
  obtain ⟨hresolve, hgenerate, hhashes⟩ := signatures_and_hashes_agree
  have hresolved : ∃ resolved,
      Naming.resolve tollSettings.aliases tollInterface.functions = .ok resolved :=
    isOk_iff.1 (by decide +kernel)
  have hbindings : ∃ b, generate tollSettings "Toll" tollInterface .notProvided = .ok b :=
    isOk_iff.1 (by decide +kernel)
  refine ⟨?_, ?_, ?_⟩
  · obtain ⟨resolved, hresolved⟩ := hresolved
    exact ⟨resolved, hresolved, hresolve _ _ _ hresolved⟩
  · obtain ⟨b, hb⟩ := hbindings
    exact ⟨b, hb, (hgenerate _ _ _ _ _ hb).2⟩
  · have hnamed : (tollEntry "low" "high").inputTypes =
        .ok [.tuple [("low", .uint 8), ("high", .uint 8)]] := by
      with_unfolding_all rfl
    have hother : (tollEntry "least" "").inputTypes =
        .ok [.tuple [("least", .uint 8), ("", .uint 8)]] := by
      with_unfolding_all rfl
    obtain ⟨-, hselector, -⟩ := hhashes _ _ _ _ hnamed hother rfl rfl
    exact hselector

end AbiBindings.Bindings
