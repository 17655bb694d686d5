import AbiBindings.Proofs.Identifiers
import AbiBindings.Proofs.Members
import AbiBindings.Proofs.Representation

/-!
# Names that generation writes

Every name that generation makes an identifier of is one, as far as the generator makes the name
itself (`isMade_of_writes`). The one name it takes over as it stands is an alias. An alias is
accepted if it is read as an identifier, and reading passes over a byte order mark, blanks and
comments around it; so generation gives up only at an alias with something around the identifier
(`written_names_are_identifiers`).
-/

set_option autoImplicit false

/-! ## Reading identifiers -/

namespace AbiBindings.Code

/-- What follows a comment ends the text. -/
theorem afterBlockComment_suffix {depth : Nat} {cs rest : List Char}
    (h : afterBlockComment depth cs = some rest) : rest <:+ cs := by
  fun_induction afterBlockComment depth cs with
  | case1 depth behind ih => exact ((ih h).trans (List.suffix_cons _ _)).trans (List.suffix_cons _ _)
  | case2 depth behind hdepth =>
    obtain rfl := Option.some.inj h
    exact (List.suffix_cons _ _).trans (List.suffix_cons _ _)
  | case3 depth behind hdepth ih =>
    exact ((ih h).trans (List.suffix_cons _ _)).trans (List.suffix_cons _ _)
  | case4 depth c behind hopen hclose ih => exact (ih h).trans (List.suffix_cons _ _)
  | case5 depth => cases h

/-- What follows trivia ends the text. -/
theorem skipOne?_suffix {cs rest : List Char} (h : skipOne? cs = some rest) : rest <:+ cs := by
  unfold skipOne? at h
  split at h
  · rename_i behind
    split at h
    · cases h
    · obtain rfl := Option.some.inj h
      have hline : afterLine behind <:+ behind := List.dropWhile_suffix _
      exact (hline.trans (List.suffix_cons _ _)).trans (List.suffix_cons _ _)
  · rename_i behind
    split at h
    · cases h
    · exact ((afterBlockComment_suffix h).trans (List.suffix_cons _ _)).trans
        (List.suffix_cons _ _)
  · split at h
    · obtain rfl := Option.some.inj h
      exact List.suffix_cons _ _
    · cases h
  · cases h

/-- What is left behind blanks and comments stands at the end of the text. -/
theorem skipTrivia_suffix (cs : List Char) : skipTrivia cs <:+ cs := by
  fun_induction skipTrivia cs with
  | case1 cs rest h ih => exact ih.trans (skipOne?_suffix h)
  | case2 cs h => exact List.suffix_rfl

/-- What follows a byte order mark ends the text. -/
theorem dropByteOrderMark_suffix (cs : List Char) : dropByteOrderMark cs <:+ cs := by
  unfold dropByteOrderMark
  split
  · exact List.suffix_cons _ _
  · exact List.suffix_rfl

/-- A text is the word that is taken from it, and what follows. -/
theorem takeWord?_append {cs behind : List Char} {word : String}
    (h : takeWord? cs = some (word, behind)) : cs = word.toList ++ behind := by
  cases cs with
  | nil => simp [takeWord?] at h
  | cons c rest =>
    by_cases hc : Text.isIdentifierStart c
    · rw [takeWord?, if_pos hc] at h
      obtain ⟨rfl, rfl⟩ := Prod.mk.inj (Option.some.inj h)
      simp
    · simp [takeWord?, hc] at h

/-- A text is the identifier that is taken from it, and what follows. -/
theorem takeIdentifier?_append {cs behind : List Char} {word : String}
    (h : takeIdentifier? cs = some (word, behind)) : cs = word.toList ++ behind := by
  unfold takeIdentifier? at h
  split at h
  · split at h
    · rename_i w behind' htake
      split at h
      · cases h
      · obtain ⟨rfl, rfl⟩ := Prod.mk.inj (Option.some.inj h)
        have hrest := takeWord?_append htake
        simp [hrest]
    · cases h
  · exact takeWord?_append h

/-- Whether a text is read as a word because what stands around it is passed over: a byte order
mark, blanks and comments before it, or blanks and comments behind it. -/
structure ReadsPast (text : String) (before : List Char) (word : String) (behind : List Char) :
    Prop where
  reads : identifier? text = some word
  parts : text.toList = before ++ word.toList ++ behind
  around : before ≠ [] ∨ behind ≠ []
  before : skipTrivia (dropByteOrderMark text.toList) = word.toList ++ behind
  behind : skipTrivia behind = []

/-- A text that is read as an identifier without the raw form is a word, or it is read past
something. -/
theorem exists_readsPast {text word : String} (h : identifier? text = some word)
    (hraw : ¬ ['r', '#'].isPrefixOf text.toList) (hword : ¬ isWord text) :
    ∃ before behind, ReadsPast text before word behind := by
  have hread := h
  unfold identifier? at h
  split at h
  · rename_i w behind htake
    split at h
    · rename_i hend
      obtain rfl := Option.some.inj h
      have hbehind : skipTrivia behind = [] := by simpa using (Bool.and_eq_true_iff.1 hend).1
      have hfront := takeIdentifier?_append htake
      obtain ⟨before, hbefore⟩ := (skipTrivia_suffix _).trans (dropByteOrderMark_suffix text.toList)
      rw [hfront, ← List.append_assoc] at hbefore
      refine ⟨before, behind, hread, hbefore.symm, ?_, hfront, hbehind⟩
      -- with nothing before or behind it, the word is the text
      by_contra hnone
      rw [not_or, not_not, not_not] at hnone
      obtain ⟨rfl, rfl⟩ := hnone
      have hsame : text = w := String.toList_injective (by simpa using hbefore.symm)
      subst hsame
      exact hword (isWord_of_identifier?_eq_self hread hraw)
    · cases h
  · cases h

/-- An identifier that is read from a text is not reserved. -/
theorem not_isReserved_of_identifier? {text word : String} (h : identifier? text = some word) :
    ¬ isReserved word := by
  unfold identifier? at h
  split at h
  · split at h
    · rename_i hend
      obtain rfl := Option.some.inj h
      simpa using (Bool.and_eq_true_iff.1 hend).2
    · cases h
  · cases h

end AbiBindings.Code

namespace AbiBindings.Bindings

open Abi Traversal

/-! ## The names that are written -/

mutual

/-- The names of primitive integers in a type. -/
def TypeDescriptor.primitives : TypeDescriptor → List String
  | .integer signed _ (.primitive width) => [primitiveName signed width]
  | .array element _ => element.primitives
  | .tuple components => componentPrimitives components
  | _ => []

/-- The names of primitive integers in the types of components. -/
def TypeDescriptor.componentPrimitives : List (String × TypeDescriptor) → List String
  | [] => []
  | (_, type) :: rest => type.primitives ++ componentPrimitives rest

end

/-- The names in bindings that generation makes itself or takes from the interface, but for the name
of the module. -/
def ContractBindings.writtenNames (b : ContractBindings) : List String :=
  b.methods.map (·.name) ++ b.events.flatMap (fun e => [e.accessor, e.identifier, e.builder]) ++
    b.members.flatMap fun m => m.inputs.map (·.name) ++
      (m.inputs.map (·.type) ++ m.outputs).flatMap TypeDescriptor.primitives

/-- Whether generation may make an identifier of a text, if it comes that far: the names of the
module, of inputs, of methods, of events and their builders, and of primitive integers. -/
inductive Writes (settings : Settings) (name : String) (abi : Interface) : String → Prop
  | module (h : settings.moduleName = none) :
      Writes settings name abi (Naming.snakeName (settings.contractName.getD name))
  | constructorInput {given : String}
      (h : given ∈ Naming.inputNames deployNames ((constructorInputs abi).map (·.name))) :
      Writes settings name abi given
  | input {e : Entry} {given : String} (he : e ∈ abi.functions ++ abi.events)
      (h : given ∈ Naming.inputNames [] (e.inputs.map (·.name))) : Writes settings name abi given
  | method {r : Naming.Resolved} (h : r ∈ Naming.candidates settings.aliases abi.functions) :
      Writes settings name abi r.accessor
  | accessor {r : Naming.Resolved} (h : r ∈ Naming.candidates [] abi.events) :
      Writes settings name abi r.accessor
  | identifier {r : Naming.Resolved} (h : r ∈ Naming.candidates [] abi.events) :
      Writes settings name abi r.identifier
  | builder {r : Naming.Resolved} (h : r ∈ Naming.candidates [] abi.events) :
      Writes settings name abi (r.identifier ++ "Builder")
  | primitive (signed : Bool) (width : Nat) :
      Writes settings name abi (primitiveName signed width)

variable {settings : Settings} {name : String} {abi : Interface} {code : Bytecode} {setup : Setup}
  {b : ContractBindings} {given : String}

/-- The primitive types of components are those of each component. -/
theorem componentPrimitives_eq (components : List (String × TypeDescriptor)) :
    TypeDescriptor.componentPrimitives components =
      components.flatMap fun c => c.2.primitives := by
  induction components with
  | nil => rfl
  | cons c rest ih => simp [TypeDescriptor.componentPrimitives, ih]

/-- A primitive type has the name for its sign and width. -/
theorem exists_of_mem_primitives {type : TypeDescriptor} (h : given ∈ type.primitives) :
    ∃ signed width, given = primitiveName signed width := by
  induction type using TypeDescriptor.shapeInduction with
  | elementary type helementary =>
    cases type with
    | integer signed bits repr =>
      cases repr with
      | primitive width => exact ⟨signed, width, List.mem_singleton.1 h⟩
      | big | exact => cases h
    | address | bool | string | bytes | fixedBytes _ => cases h
    | array _ _ | tuple _ => simp [TypeDescriptor.isElementary] at helementary
  | array element length ih => exact ih h
  | tuple components ih =>
    rw [TypeDescriptor.primitives, componentPrimitives_eq] at h
    obtain ⟨c, hc, hgiven⟩ := List.mem_flatMap.1 h
    exact ih c hc hgiven

/-- The inputs of a member bear names made for the parameters of an entry. -/
theorem writes_of_mem_inputs (h : generate settings name abi code = .ok b) {m : Member}
    (hm : m ∈ b.members) (hgiven : given ∈ m.inputs.map (·.name)) :
    Writes settings name abi given := by
  obtain ⟨setup, d, ms, es, -, hprepared, hd, hms, hes, rfl⟩ := generate_eq_ok h
  rw [ContractBindings.members, List.mem_cons, List.mem_append] at hm
  obtain rfl | hm | hm := hm
  · have hnames := (isDeployMember_of_deployment hd code).inputs.names
    rw [hnames] at hgiven
    exact .constructorInput hgiven
  · obtain ⟨e, he, hmember⟩ :=
      exists_of_mem_of_forall₂ (forall₂_isFunctionMember hprepared.functionInputs hms) hm
    rw [hmember.inputs.names] at hgiven
    exact .input (List.mem_append_left _ he) hgiven
  · obtain ⟨e, he, hmember⟩ :=
      exists_of_mem_of_forall₂ (forall₂_isEventMember hprepared.eventInputs hes) hm
    rw [hmember.inputs.names] at hgiven
    exact .input (List.mem_append_right _ he) hgiven

/-- The names of methods are written. -/
theorem writes_of_mem_methods (h : generate settings name abi code = .ok b)
    (hgiven : given ∈ b.methods.map (·.name)) : Writes settings name abi given := by
  obtain ⟨setup, d, ms, es, hsetup, -, -, hms, -, rfl⟩ := generate_eq_ok h
  obtain ⟨haliases, -⟩ := aliases_of_setup hsetup
  rw [methods_names hms, haliases] at hgiven
  obtain ⟨r, hr, rfl⟩ := List.mem_map.1 hgiven
  exact .method hr

/-- The names of an event are written. -/
theorem writes_of_mem_events (h : generate settings name abi code = .ok b) {e : EventBinding}
    (he : e ∈ b.events) (hgiven : given ∈ [e.accessor, e.identifier, e.builder]) :
    Writes settings name abi given := by
  obtain ⟨setup, d, ms, es, -, -, -, -, hes, rfl⟩ := generate_eq_ok h
  rw [events_eq_mapM] at hes
  obtain ⟨r, hr, hevent⟩ := exists_of_mem_of_mapM_eq_ok hes he
  have hof := event_eq_ok hevent
  rw [EventBinding.builder, hof.accessor, hof.identifier] at hgiven
  simp only [List.mem_cons, List.not_mem_nil, or_false] at hgiven
  obtain rfl | rfl | rfl := hgiven
  · exact .accessor hr
  · exact .identifier hr
  · exact .builder hr

/-- All names that bindings hold are written. -/
theorem writes_of_mem_writtenNames (h : generate settings name abi code = .ok b)
    (hgiven : given ∈ b.writtenNames) : Writes settings name abi given := by
  rw [ContractBindings.writtenNames, List.mem_append, List.mem_append] at hgiven
  obtain (hmethod | hevent) | hmember := hgiven
  · exact writes_of_mem_methods h hmethod
  · obtain ⟨e, he, hname⟩ := List.mem_flatMap.1 hevent
    exact writes_of_mem_events h he hname
  · obtain ⟨m, hm, hname⟩ := List.mem_flatMap.1 hmember
    rcases List.mem_append.1 hname with hinput | htype
    · exact writes_of_mem_inputs h hm hinput
    · obtain ⟨type, -, hprimitive⟩ := List.mem_flatMap.1 htype
      obtain ⟨signed, width, rfl⟩ := exists_of_mem_primitives hprimitive
      exact .primitive signed width

/-! ## The names are identifiers -/

/-- The identifiers of events are no words of the language. -/
theorem isFree_identifier {r : Naming.Resolved} (h : r ∈ Naming.candidates [] abi.events) :
    Naming.IsFree r.identifier := by
  obtain ⟨e, he, rfl⟩ := Naming.exists_entry_of_mem_candidates h
  have hkind : e.kind = .event := by simpa using (List.mem_filter.1 he).2
  have hidentifier : (Naming.resolveOne [] abi.events e e.types).identifier =
      Naming.eventIdentifier e.title (Naming.suffix? abi.events e e.types) := by
    simp [Naming.resolveOne, hkind]
  rw [hidentifier]
  exact Naming.isFree_eventIdentifier _ _ _

/-- An accessor is as the generator makes names, or it is an alias. -/
theorem isMade_accessor {aliases : Naming.Aliases} {entries : List Entry} {r : Naming.Resolved}
    (h : r ∈ Naming.candidates aliases entries) :
    Naming.IsMade r.accessor ∨ aliases.lookup r.signature = some r.accessor := by
  obtain ⟨e, -, rfl⟩ := Naming.exists_entry_of_mem_candidates h
  rw [Naming.signature_resolveOne, ← Naming.signatureText_eq]
  unfold Naming.resolveOne
  dsimp only
  split
  · exact Or.inr ‹_›
  · exact Or.inl (Naming.isMade_accessorOf entries e e.types)

/-- A name that generation may make an identifier of is one, or it is an alias. -/
theorem isMade_of_writes (h : Writes settings name abi given) :
    Naming.IsMade given ∨ ∃ a ∈ settings.aliases, given = a.2 := by
  cases h with
  | module _ => exact Or.inl (Naming.isMade_snakeName _)
  | constructorInput h => exact Or.inl (Naming.isMade_of_mem_inputNamesFrom _ _ _ h)
  | input _ h => exact Or.inl (Naming.isMade_of_mem_inputNamesFrom _ _ _ h)
  | method h =>
    obtain hmade | hlookup := isMade_accessor h
    · exact Or.inl hmade
    · exact Or.inr ⟨_, Naming.mem_of_lookup_eq_some hlookup, rfl⟩
  | accessor h =>
    obtain hmade | hlookup := isMade_accessor h
    · exact Or.inl hmade
    · cases hlookup
  | identifier h => exact Or.inl (isFree_identifier h).isMade
  | @builder r h =>
    have hbuilder : Naming.IsFree (r.identifier ++ "Builder") :=
      Naming.isFree_append (isFree_identifier h).name (by decide) (by decide)
    exact Or.inl hbuilder.isMade
  | primitive signed width => exact Or.inl (Naming.isFree_primitiveName signed width).isMade

/-- An alias that is the very identifier it stands for is one. -/
theorem isIdentifier_of_alias (h : settings.setup name = .ok setup) {a : String × String}
    (ha : a ∈ settings.aliases) (hplain : Code.identifier? a.2 = some a.2) :
    Code.IsIdentifier a.2 := by
  obtain ⟨-, hraw⟩ := aliases_of_setup h
  exact ⟨Code.isWord_of_identifier?_eq_self hplain (hraw a ha),
    Code.not_isReserved_of_identifier? hplain⟩

/-- The name of the module is written if the settings do not choose it. -/
theorem writes_moduleName (h : generate settings name abi code = .ok b)
    (hnone : settings.moduleName = none) : Writes settings name abi b.moduleName := by
  obtain ⟨setup, _, _, _, hsetup, -, -, -, -, rfl⟩ := generate_eq_ok h
  have hmodule := (setup_eq_ok hsetup).moduleName
  rw [hnone] at hmodule
  have hname := Except.ok.inj hmodule
  rw [ContractBindings.moduleName, ← hname]
  exact .module hnone

/-! ## Where generation gives up -/

/-- Whether an alias is given to a function of an interface. -/
def IsAliasIn (settings : Settings) (abi : Interface) (given : String) : Prop :=
  ∃ e ∈ abi.functions, ∃ signature, e.signature = .ok signature ∧
    settings.aliases.lookup signature = some given

/-- Generation gives up at an alias of the settings. -/
theorem isAliasIn_of_givesUp (h : settings.setup name = .ok setup)
    (hgivesUp : GivesUp setup abi given) : IsAliasIn settings abi given := by
  obtain ⟨haliases, -⟩ := aliases_of_setup h
  obtain ⟨hprepared, before, r, after, hsplit, -, -, hlookup, -, -⟩ := hgivesUp
  have hr : r ∈ Naming.candidates setup.aliases abi.functions := by simp [hsplit]
  obtain ⟨e, he, rfl⟩ := Naming.exists_entry_of_mem_candidates hr
  rw [Naming.signature_resolveOne, haliases] at hlookup
  exact ⟨e, he, _, signature_of_allTyped (hprepared.functionInputs e he), hlookup⟩

/-- An accepted alias that is no word was read past something. -/
theorem exists_readsPast_of_alias (h : settings.setup name = .ok setup) {signature : String}
    (hlookup : settings.aliases.lookup signature = some given) (hword : ¬ Code.isWord given) :
    ∃ before word behind, Code.ReadsPast given before word behind := by
  obtain ⟨-, haccepted⟩ := checkAliases_eq_ok (setup_eq_ok h).aliases
  obtain ⟨word, hplain⟩ := haccepted _ (Naming.mem_of_lookup_eq_some hlookup)
  obtain ⟨hread, hraw⟩ := plainIdentifier_eq_ok hplain
  obtain ⟨before, behind, hpast⟩ := Code.exists_readsPast hread hraw hword
  exact ⟨before, word, behind, hpast⟩

/-- Generation writes no name that is not an identifier. Behind accepted settings all of whose
aliases are written as the very identifiers they stand for, every name that an identifier may be
made of is one, whatever the interface calls its members, and generation does not give up. Words
that the language keeps for itself although they are read as identifiers occur only as lower-case
forms and as aliases. Otherwise generation gives up only if a function is given an alias that was
accepted because a byte order mark, blanks or comments around an identifier were passed over. -/
theorem written_names_are_identifiers (h : settings.setup name = .ok setup) :
    ((∀ a ∈ settings.aliases, Code.identifier? a.2 = some a.2) →
      (∀ given, Writes settings name abi given → Code.IsIdentifier given ∧
        (given ∈ Code.lenientWords → (∃ text, given = Naming.snakeName text) ∨
          ∃ a ∈ settings.aliases, given = a.2)) ∧
      ∀ code e, generate settings name abi code = .error e → ¬ IsFatal e) ∧
    (∀ code b, generate settings name abi code = .ok b →
      (settings.moduleName = none → Writes settings name abi b.moduleName) ∧
        ∀ given ∈ b.writtenNames, Writes settings name abi given) ∧
    ∀ code e, generate settings name abi code = .error e → IsFatal e →
      ∃ given, e = .unwritable given ∧ IsAliasIn settings abi given ∧ ¬ Code.isWord given ∧
        ∃ before word behind, Code.ReadsPast given before word behind := by
  refine ⟨?_, ?_, ?_⟩
  · intro hplain
    constructor
    · intro given hwrites
      obtain hmade | ⟨a, ha, rfl⟩ := isMade_of_writes hwrites
      · exact ⟨hmade.isIdentifier, fun hlenient => Or.inl (hmade.lenient hlenient)⟩
      · exact ⟨isIdentifier_of_alias h ha (hplain a ha), fun _ => Or.inr ⟨a, ha, rfl⟩⟩
    · intro code e herror hfatal
      obtain ⟨given, -, hgivesUp⟩ := exists_givesUp_of_isFatal h herror hfatal
      exact not_givesUp_of_plain h hplain given hgivesUp
  · intro code b hb
    exact ⟨writes_moduleName hb, fun given hgiven => writes_of_mem_writtenNames hb hgiven⟩
  · intro code e herror hfatal
    obtain ⟨given, rfl, hgivesUp⟩ := exists_givesUp_of_isFatal h herror hfatal
    obtain ⟨f, hf, signature, hsignature, hlookup⟩ := isAliasIn_of_givesUp h hgivesUp
    obtain ⟨-, _, _, _, -, -, -, -, -, hword⟩ := hgivesUp
    exact ⟨given, rfl, ⟨f, hf, signature, hsignature, hlookup⟩, hword,
      exists_readsPast_of_alias h hlookup hword⟩

/-- Settings that give a function an alias. -/
def haltSettings (given : String) : Settings := { aliases := [("halt()", given)] }

/-- An interface whose names are reserved words, numbers and underscores. -/
def haltInterface : Interface :=
  ⟨[⟨.constructor, none, [⟨"web3", "address", [], false⟩], [], .nonpayable, false⟩,
    ⟨.function, some "type", [⟨"1st", "uint8", [], false⟩], [], .view, false⟩,
    ⟨.function, some "type", [], [], .view, false⟩,
    ⟨.function, some "halt", [], [], .nonpayable, false⟩,
    ⟨.event, some "_", [⟨"fn", "bool", [], true⟩, ⟨"Fn", "int72", [], false⟩], [], .nonpayable,
      false⟩]⟩

/-- The names of that interface are identifiers in its bindings, and generation gives up if the
alias begins with a byte order mark. -/
theorem written_names_are_identifiers_halt :
    (∃ b, generate (haltSettings "stop") "Crate" haltInterface .notProvided = .ok b ∧
      b.writtenNames = ["type__uint8", "type__no_args", "stop", "__", "unnamed", "unnamedBuilder",
        "web3_0", "_1st", "u8", "fn_", "fn__1", "i128"] ∧
      ∀ given ∈ b.moduleName :: b.writtenNames, Code.IsIdentifier given) ∧
    ∃ e, generate (haltSettings "\ufeffstop") "Crate" haltInterface .notProvided = .error e ∧
      IsFatal e ∧ ∃ given, e = .unwritable given ∧
        ∃ before word behind, Code.ReadsPast given before word behind := by
  constructor
  · have hsetup : ∃ setup, (haltSettings "stop").setup "Crate" = .ok setup :=
      isOk_iff.1 (by decide +kernel)
    obtain ⟨setup, hsetup⟩ := hsetup
    have hnames : (generate (haltSettings "stop") "Crate" haltInterface .notProvided).toOption.map
        ContractBindings.writtenNames = some ["type__uint8", "type__no_args", "stop", "__",
          "unnamed", "unnamedBuilder", "web3_0", "_1st", "u8", "fn_", "fn__1", "i128"] := by
      decide +kernel
    have hok : ∃ b, generate (haltSettings "stop") "Crate" haltInterface .notProvided = .ok b :=
      isOk_iff.1 (by decide +kernel)
    obtain ⟨b, hgenerate⟩ := hok
    rw [hgenerate] at hnames
    have hplain : ∀ a ∈ (haltSettings "stop").aliases, Code.identifier? a.2 = some a.2 := by
      decide +kernel
    obtain ⟨hidentifiers, hwrites, -⟩ := written_names_are_identifiers hsetup
    obtain ⟨hmodule, hothers⟩ := hwrites _ b hgenerate
    refine ⟨b, hgenerate, Option.some.inj hnames, List.forall_mem_cons.2 ⟨?_, ?_⟩⟩
    · exact ((hidentifiers hplain).1 _ (hmodule rfl)).1
    · intro given hgiven
      exact ((hidentifiers hplain).1 _ (hothers given hgiven)).1
  · have hsetup : ∃ setup, (haltSettings "\ufeffstop").setup "Crate" = .ok setup :=
      isOk_iff.1 (by decide +kernel)
    obtain ⟨setup, hsetup⟩ := hsetup
    have hfault : error? (generate (haltSettings "\ufeffstop") "Crate" haltInterface
        .notProvided) = some (.unwritable "\ufeffstop") := by
      decide +kernel
    have herror := error?_eq_some_iff.1 hfault
    have hfatal : IsFatal (.unwritable "\ufeffstop") := ⟨_, Or.inl rfl⟩
    obtain ⟨-, -, hgivesUp⟩ := written_names_are_identifiers hsetup
    obtain ⟨given, hgiven, -, -, hpast⟩ := hgivesUp _ _ herror hfatal
    exact ⟨_, herror, hfatal, given, hgiven, hpast⟩

end AbiBindings.Bindings
