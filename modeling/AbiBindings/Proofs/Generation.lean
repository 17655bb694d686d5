import Mathlib.Tactic.MkIffOfInductiveProp
import AbiBindings.Proofs.Names
import AbiBindings.Proofs.Stages

/-!
# What generation makes of an interface

Once the settings are accepted, the interface alone decides the outcome, in a fixed order of faults:
inputs of functions, names of functions, inputs of events, names of events, inputs of the
constructor, outputs of functions. The one exception is an alias that was accepted although its
text holds more than an identifier: if it reaches the code, generation gives up altogether.
`generate_outcome` says both.
-/

set_option autoImplicit false

namespace AbiBindings.Bindings

open Abi Traversal

variable {settings : Settings} {name : String} {abi : Interface} {code : Bytecode} {setup : Setup}

/-! ## Aliases -/

/-- A configured name is accepted if it is read as an identifier and does not have the raw form. -/
theorem plainIdentifier_eq_ok {what text word : String} (h : plainIdentifier what text = .ok word) :
    Code.identifier? text = some word ∧ ¬ ['r', '#'].isPrefixOf text.toList := by
  unfold plainIdentifier at h
  split at h
  · rename_i hread
    split at h
    · cases h
    · obtain rfl := Except.ok.inj h
      exact ⟨hread, ‹_›⟩
  · cases h

/-- Accepted aliases are kept as they are, each of them accepted as a configured name. -/
theorem checkAliases_eq_ok {earlier aliases accepted : Naming.Aliases}
    (h : checkAliases earlier aliases = .ok accepted) :
    accepted = earlier ++ aliases ∧
      ∀ a ∈ aliases, ∃ word, plainIdentifier "method alias" a.2 = .ok word := by
  induction aliases generalizing earlier with
  | nil =>
    obtain rfl := Except.ok.inj h
    simp
  | cons a rest ih =>
    rw [checkAliases] at h
    obtain ⟨word, hword, h⟩ := bind_eq_ok_iff.1 h
    split at h
    · cases h
    · obtain ⟨rfl, hrest⟩ := ih h
      exact ⟨by simp, List.forall_mem_cons.2 ⟨⟨word, hword⟩, hrest⟩⟩

/-- What accepted settings are made of. -/
structure SetupOf (settings : Settings) (name : String) (setup : Setup) : Prop where
  contractName : plainIdentifier "contract name" (settings.contractName.getD name) =
    .ok setup.contractName
  runtime : plainIdentifier "runtime crate name" settings.runtime = .ok setup.runtime
  visibility : visibilityTokens settings.visibility = .ok setup.visibility
  moduleName : moduleIdentifier (settings.contractName.getD name) settings.moduleName =
    .ok setup.moduleName
  aliases : checkAliases [] settings.aliases = .ok setup.aliases
  derives : deriveTokens settings.derives = .ok setup.derives

/-- Settings that are accepted hold what the setup says. -/
theorem setup_eq_ok (h : settings.setup name = .ok setup) : SetupOf settings name setup := by
  unfold Settings.setup at h
  dsimp only at h
  split at h
  · cases h
  · obtain ⟨contractName, hcontract, h⟩ := bind_eq_ok_iff.1 h
    obtain ⟨runtime, hruntime, h⟩ := bind_eq_ok_iff.1 h
    obtain ⟨visibility, hvisibility, h⟩ := bind_eq_ok_iff.1 h
    obtain ⟨moduleName, hmodule, h⟩ := bind_eq_ok_iff.1 h
    obtain ⟨aliases, haliases, h⟩ := bind_eq_ok_iff.1 h
    obtain ⟨derives, hderives, h⟩ := bind_eq_ok_iff.1 h
    obtain rfl := Except.ok.inj h
    exact ⟨hcontract, hruntime, hvisibility, hmodule, haliases, hderives⟩

/-- The aliases of accepted settings are kept as they are, and none has the raw form. -/
theorem aliases_of_setup (h : settings.setup name = .ok setup) :
    setup.aliases = settings.aliases ∧
      ∀ a ∈ settings.aliases, ¬ ['r', '#'].isPrefixOf a.2.toList := by
  obtain ⟨haliases, haccepted⟩ := checkAliases_eq_ok (setup_eq_ok h).aliases
  refine ⟨by simpa using haliases, ?_⟩
  intro a ha
  obtain ⟨word, hword⟩ := haccepted a ha
  exact (plainIdentifier_eq_ok hword).2

/-- The accessor of an entry is the alias of its signature or a name. -/
theorem accessor_resolveOne (aliases : Naming.Aliases) (entries : List Entry) (e : Entry)
    (types : List ParamType) :
    aliases.lookup (signatureOf e.title types) =
        some (Naming.resolveOne aliases entries e types).accessor ∨
      Naming.IsName (Naming.resolveOne aliases entries e types).accessor.toList := by
  rw [← Naming.signatureText_eq]
  unfold Naming.resolveOne
  dsimp only
  split
  · exact Or.inl ‹_›
  · exact Or.inr (Naming.isName_accessorOf entries e types)

/-- A candidate whose accessor is no word is named by an alias. -/
theorem lookup_of_not_isWord {aliases : Naming.Aliases} {entries : List Entry}
    {r : Naming.Resolved} (hr : r ∈ Naming.candidates aliases entries)
    (hword : ¬ Code.isWord r.accessor) : aliases.lookup r.signature = some r.accessor := by
  obtain ⟨e, -, rfl⟩ := Naming.exists_entry_of_mem_candidates hr
  rw [Naming.signature_resolveOne]
  exact (accessor_resolveOne aliases entries e e.types).resolve_right
    fun hname => hword (Code.isWord_of_isName hname)

/-- If the text of every alias is the very identifier it stands for, all accessors are words. -/
theorem isWord_of_mem_candidates (h : settings.setup name = .ok setup)
    (hplain : ∀ a ∈ settings.aliases, Code.identifier? a.2 = some a.2) {entries : List Entry}
    {r : Naming.Resolved} (hr : r ∈ Naming.candidates setup.aliases entries) :
    Code.isWord r.accessor := by
  obtain ⟨haliases, hraw⟩ := aliases_of_setup h
  by_contra hword
  have hlookup := lookup_of_not_isWord hr hword
  rw [haliases] at hlookup
  have hmem := Naming.mem_of_lookup_eq_some hlookup
  exact hword (Code.isWord_of_identifier?_eq_self (hplain _ hmem) (hraw _ hmem))

/-! ## The order of faults -/

/-- Whether the outputs of every entry have types. -/
def OutputsTyped (entries : List Entry) : Prop :=
  ∀ e ∈ entries, AllTyped e.outputs

/-- Whether outputs have types is decided by reading them. -/
instance (entries : List Entry) : Decidable (OutputsTyped entries) :=
  inferInstanceAs (Decidable (∀ e ∈ entries, AllTyped e.outputs))

/-- What an interface must fulfil before methods are made of its functions, in the order in which
it is checked. -/
@[mk_iff]
structure Prepared (setup : Setup) (abi : Interface) : Prop where
  functionInputs : Naming.InputsTyped abi.functions
  functionNames : Naming.Distinct (Naming.candidates setup.aliases abi.functions)
  eventInputs : Naming.InputsTyped abi.events
  eventNames : Naming.Distinct (Naming.candidates [] abi.events)
  constructorInputs : AllTyped (Bindings.constructorInputs abi)

/-- Whether generation is prepared is decided part by part. -/
instance (setup : Setup) (abi : Interface) : Decidable (Prepared setup abi) :=
  decidable_of_iff _ (prepared_iff setup abi).symm

/-- The outcome of generation where the interface alone decides it: bindings if nothing is wrong,
otherwise the error of the first condition, in this order, that fails. -/
structure Outcome (setup : Setup) (abi : Interface) (x : Except GenerateError ContractBindings) :
    Prop where
  success : (∃ b, x = .ok b) ↔ Prepared setup abi ∧ OutputsTyped abi.functions
  functionInputs : ¬ Naming.InputsTyped abi.functions →
    ∃ e ∈ abi.functions, Blames e.inputs (.function e.title) x
  functionNames : Naming.InputsTyped abi.functions →
    ¬ Naming.Distinct (Naming.candidates setup.aliases abi.functions) → Collides x
  eventInputs : Naming.InputsTyped abi.functions →
    Naming.Distinct (Naming.candidates setup.aliases abi.functions) →
    ¬ Naming.InputsTyped abi.events → ∃ e ∈ abi.events, Blames e.inputs (.event e.title) x
  eventNames : Naming.InputsTyped abi.functions →
    Naming.Distinct (Naming.candidates setup.aliases abi.functions) →
    Naming.InputsTyped abi.events → ¬ Naming.Distinct (Naming.candidates [] abi.events) →
    Collides x
  constructorInputs : Naming.InputsTyped abi.functions →
    Naming.Distinct (Naming.candidates setup.aliases abi.functions) →
    Naming.InputsTyped abi.events → Naming.Distinct (Naming.candidates [] abi.events) →
    ¬ AllTyped (Bindings.constructorInputs abi) →
    Blames (Bindings.constructorInputs abi) .constructor x
  functionOutputs : Prepared setup abi → ¬ OutputsTyped abi.functions →
    ∃ e ∈ abi.functions, Blames e.outputs (.function e.title) x

/-- Whether generation gives up at an alias: all is well until the methods are made, and the first
function that is not writable has types for all outputs but bears this alias, which is no word. -/
def GivesUp (setup : Setup) (abi : Interface) (given : String) : Prop :=
  Prepared setup abi ∧ ∃ before r after,
    Naming.candidates setup.aliases abi.functions = before ++ r :: after ∧
      (∀ q ∈ before, Writable q) ∧ AllTyped r.entry.outputs ∧
      setup.aliases.lookup r.signature = some given ∧ r.accessor = given ∧ ¬ Code.isWord given

/-- If all functions are writable, the outputs of all have types. -/
theorem outputsTyped_of_writable {aliases : Naming.Aliases} {entries : List Entry}
    (h : ∀ r ∈ Naming.candidates aliases entries, Writable r) : OutputsTyped entries := by
  intro e he
  obtain ⟨houtputs, -⟩ := h _ (List.mem_map_of_mem he)
  rwa [Naming.entry_resolveOne] at houtputs

/-- Behind the settings, generation is the sequence of its stages. -/
theorem generate_of_setup (h : settings.setup name = .ok setup) :
    generate settings name abi code = (do
      let functions ← Naming.resolve setup.aliases abi.functions
      let named ← Naming.resolve [] abi.events
      let deployment ← deployment settings.policy abi
      let methods ← methods settings.policy functions
      let events ← events settings.policy named
      .ok ⟨settings.package, setup, code, settings.policy, settings.format, deployment, methods,
        events⟩) := by
  rw [generate, h]
  rfl

section Faults

variable (h : settings.setup name = .ok setup)

include h

/-- If an input of a function has no type, generation fails for one. -/
theorem generate_functionInputs (hinputs : ¬ Naming.InputsTyped abi.functions) :
    ∃ e ∈ abi.functions, Blames e.inputs (.function e.title) (generate settings name abi code) := by
  obtain ⟨e, he, hblames⟩ := @resolve_blames setup.aliases _ hinputs
  rw [locationOf_of_mem_functions he] at hblames
  rw [generate_of_setup h]
  exact ⟨e, he, hblames.bind _⟩

/-- If functions are not told apart, generation fails for a collision. -/
theorem generate_functionNames (hinputs : Naming.InputsTyped abi.functions)
    (hnames : ¬ Naming.Distinct (Naming.candidates setup.aliases abi.functions)) :
    Collides (generate settings name abi code) := by
  rw [generate_of_setup h]
  exact (resolve_collides hinputs hnames).bind _

/-- Once the functions are resolved, generation goes on with the events. -/
theorem generate_of_functions (hinputs : Naming.InputsTyped abi.functions)
    (hnames : Naming.Distinct (Naming.candidates setup.aliases abi.functions)) :
    ∃ next : List Naming.Resolved → Except GenerateError ContractBindings,
      generate settings name abi code = Naming.resolve [] abi.events >>= next := by
  rw [generate_of_setup h, Naming.resolve_eq_candidates hinputs hnames]
  exact ⟨_, rfl⟩

/-- If an input of an event is the first to have no type, generation fails for one. -/
theorem generate_eventInputs (hinputs : Naming.InputsTyped abi.functions)
    (hnames : Naming.Distinct (Naming.candidates setup.aliases abi.functions))
    (hevents : ¬ Naming.InputsTyped abi.events) :
    ∃ e ∈ abi.events, Blames e.inputs (.event e.title) (generate settings name abi code) := by
  obtain ⟨e, he, hblames⟩ := @resolve_blames [] _ hevents
  rw [locationOf_of_mem_events he] at hblames
  obtain ⟨next, hnext⟩ := generate_of_functions h hinputs hnames
  rw [hnext]
  exact ⟨e, he, hblames.bind _⟩

/-- If events are the first not to be told apart, generation fails for a collision. -/
theorem generate_eventNames (hinputs : Naming.InputsTyped abi.functions)
    (hnames : Naming.Distinct (Naming.candidates setup.aliases abi.functions))
    (hevents : Naming.InputsTyped abi.events)
    (heventNames : ¬ Naming.Distinct (Naming.candidates [] abi.events)) :
    Collides (generate settings name abi code) := by
  obtain ⟨next, hnext⟩ := generate_of_functions h hinputs hnames
  rw [hnext]
  exact (resolve_collides hevents heventNames).bind _

/-- If an input of the constructor is the first to have no type, generation fails for one. -/
theorem generate_constructorInputs (hinputs : Naming.InputsTyped abi.functions)
    (hnames : Naming.Distinct (Naming.candidates setup.aliases abi.functions))
    (hevents : Naming.InputsTyped abi.events)
    (heventNames : Naming.Distinct (Naming.candidates [] abi.events))
    (hconstructor : ¬ AllTyped (constructorInputs abi)) :
    Blames (constructorInputs abi) .constructor (generate settings name abi code) := by
  rw [generate_of_setup h, Naming.resolve_eq_candidates hinputs hnames,
    Naming.resolve_eq_candidates hevents heventNames]
  exact (deployment_blames hconstructor).bind _

/-- Without one of the conditions on the interface, generation fails and does not give up. -/
theorem generate_of_not_prepared (hprepared : ¬ Prepared setup abi) :
    ∃ e, generate settings name abi code = .error e ∧ ¬ IsFatal e := by
  by_cases hinputs : Naming.InputsTyped abi.functions
  · by_cases hnames : Naming.Distinct (Naming.candidates setup.aliases abi.functions)
    · by_cases hevents : Naming.InputsTyped abi.events
      · by_cases heventNames : Naming.Distinct (Naming.candidates [] abi.events)
        · have hconstructor : ¬ AllTyped (constructorInputs abi) := fun hconstructor =>
            hprepared ⟨hinputs, hnames, hevents, heventNames, hconstructor⟩
          exact (generate_constructorInputs h hinputs hnames hevents heventNames
            hconstructor).exists_error
        · exact (generate_eventNames h hinputs hnames hevents heventNames).exists_error
      · obtain ⟨e, -, hblames⟩ := generate_eventInputs h hinputs hnames hevents
        exact hblames.exists_error
    · exact (generate_functionNames h hinputs hnames).exists_error
  · obtain ⟨e, -, hblames⟩ := generate_functionInputs h hinputs
    exact hblames.exists_error

/-- With all conditions on the interface, only the methods can fail. -/
theorem generate_of_prepared (hprepared : Prepared setup abi) :
    ∃ complete : List Method → ContractBindings, generate settings name abi code =
      methods settings.policy (Naming.candidates setup.aliases abi.functions) >>= fun ms =>
        .ok (complete ms) := by
  obtain ⟨hinputs, hnames, hevents, heventNames, hconstructor⟩ := hprepared
  obtain ⟨d, hd⟩ := exists_deployment hconstructor
  have hes : ∃ es, events settings.policy (Naming.candidates [] abi.events) = .ok es :=
    exists_events (Naming.allTyped_of_mem_candidates hevents)
  obtain ⟨es, hes⟩ := hes
  refine ⟨fun ms =>
    ⟨settings.package, setup, code, settings.policy, settings.format, d, ms, es⟩, ?_⟩
  rw [generate_of_setup h, Naming.resolve_eq_candidates hinputs hnames,
    Naming.resolve_eq_candidates hevents heventNames, hd]
  show (methods settings.policy (Naming.candidates setup.aliases abi.functions) >>= fun ms =>
    events settings.policy (Naming.candidates [] abi.events) >>= fun es => _) = _
  rw [hes]
  rfl

/-- Generation succeeds exactly if the interface is in order and all functions are writable. -/
theorem exists_generate_iff : (∃ b, generate settings name abi code = .ok b) ↔
    Prepared setup abi ∧ ∀ r ∈ Naming.candidates setup.aliases abi.functions, Writable r := by
  by_cases hprepared : Prepared setup abi
  · have hinputs := @Naming.allTyped_of_mem_candidates setup.aliases _ hprepared.functionInputs
    obtain ⟨complete, hcomplete⟩ := @generate_of_prepared _ _ _ code _ h hprepared
    rw [hcomplete, ← @exists_methods_iff settings.policy _ hinputs]
    constructor
    · rintro ⟨b, hb⟩
      obtain ⟨ms, hms, -⟩ := bind_eq_ok_iff.1 hb
      exact ⟨hprepared, ms, hms⟩
    · rintro ⟨-, ms, hms⟩
      rw [hms]
      exact ⟨complete ms, rfl⟩
  · obtain ⟨e, he, -⟩ := @generate_of_not_prepared _ _ _ code _ h hprepared
    simp [he, hprepared]

/-- If the functions of an interface in order are not all writable, the first that is not has an
output without a type, which is blamed, or it bears an alias at which generation gives up. -/
theorem generate_of_not_writable (hprepared : Prepared setup abi)
    (hnot : ¬ ∀ r ∈ Naming.candidates setup.aliases abi.functions, Writable r) :
    (∃ e ∈ abi.functions,
        Blames e.outputs (.function e.title) (generate settings name abi code)) ∨
      ∃ given, GivesUp setup abi given ∧
        generate settings name abi code = .error (.unwritable given) := by
  have hinputs := @Naming.allTyped_of_mem_candidates setup.aliases _ hprepared.functionInputs
  obtain ⟨complete, hcomplete⟩ := @generate_of_prepared _ _ _ code _ h hprepared
  obtain ⟨before, r, after, hsplit, hbefore, hfail⟩ := @methods_fail settings.policy _ hinputs hnot
  have hr : r ∈ Naming.candidates setup.aliases abi.functions := by simp [hsplit]
  rw [hcomplete]
  obtain hblames | ⟨houtputs, hword, hfault⟩ := hfail
  · exact Or.inl ⟨r.entry, Naming.entry_mem_of_mem_candidates hr, hblames.bind _⟩
  · refine Or.inr ⟨r.accessor, ⟨hprepared, before, r, after, hsplit, hbefore, houtputs,
      lookup_of_not_isWord hr hword, rfl, hword⟩, ?_⟩
    rw [hfault]
    rfl

/-- Behind accepted settings, generation gives up at nothing but an alias. -/
theorem exists_givesUp_of_isFatal {e : GenerateError}
    (herror : generate settings name abi code = .error e) (hfatal : IsFatal e) :
    ∃ given, e = .unwritable given ∧ GivesUp setup abi given := by
  by_cases hprepared : Prepared setup abi
  · have hnot : ¬ ∀ r ∈ Naming.candidates setup.aliases abi.functions, Writable r := by
      intro hwritable
      obtain ⟨b, hb⟩ := (@exists_generate_iff _ _ _ code _ h).2 ⟨hprepared, hwritable⟩
      rw [herror] at hb
      cases hb
    obtain ⟨e', -, hblames⟩ | ⟨given, hgivesUp, hgiven⟩ :=
      @generate_of_not_writable _ _ _ code _ h hprepared hnot
    · obtain ⟨fault, hfault, hne⟩ := hblames.exists_error
      rw [herror] at hfault
      obtain rfl := Except.error.inj hfault
      exact absurd hfatal hne
    · rw [herror] at hgiven
      exact ⟨given, Except.error.inj hgiven, hgivesUp⟩
  · obtain ⟨fault, hfault, hne⟩ := @generate_of_not_prepared _ _ _ code _ h hprepared
    rw [herror] at hfault
    obtain rfl := Except.error.inj hfault
    exact absurd hfatal hne

/-- Generation gives up exactly where the first function that is not writable bears an alias that is
no word. -/
theorem generate_eq_unwritable_iff {given : String} :
    generate settings name abi code = .error (.unwritable given) ↔ GivesUp setup abi given := by
  constructor
  · intro hgiven
    obtain ⟨other, hother, hgivesUp⟩ := exists_givesUp_of_isFatal h hgiven ⟨given, Or.inl rfl⟩
    cases hother
    exact hgivesUp
  · rintro ⟨hprepared, before, r, after, hsplit, hbefore, houtputs, -, rfl, hword⟩
    have hinputs := @Naming.allTyped_of_mem_candidates setup.aliases _ hprepared.functionInputs
    have hr : r ∈ Naming.candidates setup.aliases abi.functions := by simp [hsplit]
    have hfault : methods settings.policy (Naming.candidates setup.aliases abi.functions) =
        .error (.unwritable r.accessor) :=
      (methods_eq_error_iff hinputs).2 ⟨before, r, after, hsplit, hbefore,
        method_eq_unwritable (hinputs r hr) houtputs hword⟩
    obtain ⟨complete, hcomplete⟩ := @generate_of_prepared _ _ _ code _ h hprepared
    rw [hcomplete, hfault]
    rfl

/-- Where generation does not give up at an alias, the interface alone decides the outcome. -/
theorem outcome_of_not_givesUp (hno : ∀ given, ¬ GivesUp setup abi given) :
    Outcome setup abi (generate settings name abi code) where
  success := by
    rw [exists_generate_iff h]
    constructor
    · rintro ⟨hprepared, hwritable⟩
      exact ⟨hprepared, outputsTyped_of_writable hwritable⟩
    · rintro ⟨hprepared, houtputs⟩
      refine ⟨hprepared, ?_⟩
      by_contra hnot
      obtain ⟨e, he, hblames⟩ | ⟨given, hgivesUp, -⟩ :=
        @generate_of_not_writable _ _ _ code _ h hprepared hnot
      · exact hblames.not_allTyped (houtputs e he)
      · exact hno given hgivesUp
  functionInputs := generate_functionInputs h
  functionNames := generate_functionNames h
  eventInputs := generate_eventInputs h
  eventNames := generate_eventNames h
  constructorInputs := generate_constructorInputs h
  functionOutputs := by
    intro hprepared houtputs
    have hnot : ¬ ∀ r ∈ Naming.candidates setup.aliases abi.functions, Writable r :=
      mt outputsTyped_of_writable houtputs
    obtain hblames | ⟨given, hgivesUp, -⟩ :=
      @generate_of_not_writable _ _ _ code _ h hprepared hnot
    · exact hblames
    · exact absurd hgivesUp (hno given)

/-- An outcome that the interface alone decides is no giving up. -/
theorem Outcome.not_givesUp (houtcome : Outcome setup abi (generate settings name abi code))
    (given : String) : ¬ GivesUp setup abi given := by
  intro hgivesUp
  have hgiven := (@generate_eq_unwritable_iff _ _ _ code _ h given).2 hgivesUp
  have houtputs : ¬ OutputsTyped abi.functions := by
    intro houtputs
    obtain ⟨b, hb⟩ := houtcome.success.2 ⟨hgivesUp.1, houtputs⟩
    rw [hgiven] at hb
    cases hb
  obtain ⟨e, -, hblames⟩ := houtcome.functionOutputs hgivesUp.1 houtputs
  obtain ⟨fault, hfault, hne⟩ := hblames.exists_error
  rw [hgiven] at hfault
  exact hne ⟨given, Or.inl (Except.error.inj hfault).symm⟩

/-- Generation does not give up if the text of every alias is the very identifier it stands for. -/
theorem not_givesUp_of_plain (hplain : ∀ a ∈ settings.aliases, Code.identifier? a.2 = some a.2)
    (given : String) : ¬ GivesUp setup abi given := by
  rintro ⟨-, before, r, after, hsplit, -, -, -, rfl, hword⟩
  have hr : r ∈ Naming.candidates setup.aliases abi.functions := by simp [hsplit]
  exact hword (isWord_of_mem_candidates h hplain hr)

end Faults

/-- What a success of generation is made of. -/
theorem generate_eq_ok {b : ContractBindings} (h : generate settings name abi code = .ok b) :
    ∃ setup d ms es, settings.setup name = .ok setup ∧ Prepared setup abi ∧
      deployment settings.policy abi = .ok d ∧
      methods settings.policy (Naming.candidates setup.aliases abi.functions) = .ok ms ∧
      events settings.policy (Naming.candidates [] abi.events) = .ok es ∧
      b = ⟨settings.package, setup, code, settings.policy, settings.format, d, ms, es⟩ := by
  obtain ⟨setup, hsetup, -⟩ := bind_eq_ok_iff.1 h
  obtain ⟨hprepared, -⟩ := (exists_generate_iff hsetup).1 ⟨b, h⟩
  rw [generate_of_setup hsetup] at h
  obtain ⟨functions, hfunctions, h⟩ := bind_eq_ok_iff.1 h
  obtain ⟨-, -, rfl⟩ := Naming.resolve_eq_ok_iff.1 hfunctions
  obtain ⟨named, hnamed, h⟩ := bind_eq_ok_iff.1 h
  obtain ⟨-, -, rfl⟩ := Naming.resolve_eq_ok_iff.1 hnamed
  obtain ⟨d, hd, h⟩ := bind_eq_ok_iff.1 h
  obtain ⟨ms, hms, h⟩ := bind_eq_ok_iff.1 h
  obtain ⟨es, hes, h⟩ := bind_eq_ok_iff.1 h
  exact ⟨setup, d, ms, es, hsetup, hprepared, hd, hms, hes, (Except.ok.inj h).symm⟩

/-- What comes of generation behind accepted settings. The interface alone decides it, in the order
of faults of `Outcome`, exactly if generation does not give up; it gives up exactly at an alias of
`GivesUp`, and never if the text of every alias is the very identifier it stands for. Where names
are resolved, neither the inputs of functions nor the events can fail any more. -/
theorem generate_outcome (h : settings.setup name = .ok setup) :
    (Outcome setup abi (generate settings name abi code) ↔
        ∀ given, generate settings name abi code ≠ .error (.unwritable given)) ∧
      (∀ given, generate settings name abi code = .error (.unwritable given) ↔
        GivesUp setup abi given) ∧
      ((∀ a ∈ settings.aliases, Code.identifier? a.2 = some a.2) →
        Outcome setup abi (generate settings name abi code)) ∧
      (∀ functions, Naming.resolve setup.aliases abi.functions = .ok functions →
        ∀ r ∈ functions, ∃ inputs,
          arguments settings.policy (.function r.entry.title) [] r.entry.inputs = .ok inputs) ∧
      ∀ named, Naming.resolve [] abi.events = .ok named →
        ∃ es, events settings.policy named = .ok es := by
  refine ⟨⟨?_, ?_⟩, fun _ => generate_eq_unwritable_iff h, ?_, ?_, ?_⟩
  · intro houtcome given hgiven
    exact houtcome.not_givesUp h given ((generate_eq_unwritable_iff h).1 hgiven)
  · intro hnever
    apply outcome_of_not_givesUp h
    intro given hgivesUp
    exact hnever given ((generate_eq_unwritable_iff h).2 hgivesUp)
  · intro hplain
    exact outcome_of_not_givesUp h (not_givesUp_of_plain h hplain)
  · intro functions hfunctions r hr
    obtain ⟨hinputs, -, rfl⟩ := Naming.resolve_eq_ok_iff.1 hfunctions
    exact exists_arguments_iff.2 (Naming.allTyped_of_mem_candidates hinputs r hr)
  · intro named hnamed
    obtain ⟨hinputs, -, rfl⟩ := Naming.resolve_eq_ok_iff.1 hnamed
    exact exists_events (Naming.allTyped_of_mem_candidates hinputs)

/-- Settings whose one alias begins with a byte order mark, which readers of code skip. -/
def markedSettings : Settings := { aliases := [("f()", "\ufeffsend")] }

/-- An interface of two functions: the first bears that alias, the second has an output that has no
type. -/
def markedInterface : Interface :=
  ⟨[⟨.function, some "f", [], [], .nonpayable, false⟩,
    ⟨.function, some "g", [], [⟨"", "fixed", [], false⟩], .nonpayable, false⟩]⟩

/-- The settings with the marked alias are accepted. -/
theorem exists_setup_marked : ∃ setup, markedSettings.setup "Token" = .ok setup :=
  isOk_iff.1 (by decide +kernel)

/-- An accepted alias with a byte order mark makes generation give up before it comes to the output
that has no type. -/
theorem generate_outcome_marked :
    ∃ setup, markedSettings.setup "Token" = .ok setup ∧
      generate markedSettings "Token" markedInterface .notProvided =
        .error (.unwritable "\ufeffsend") ∧
      ¬ Outcome setup markedInterface
        (generate markedSettings "Token" markedInterface .notProvided) := by
  obtain ⟨setup, h⟩ := exists_setup_marked
  obtain ⟨haliases, -⟩ := aliases_of_setup h
  obtain ⟨houtcome, hgivesUp, -⟩ := @generate_outcome _ _ markedInterface .notProvided _ h
  have hprepared : Prepared setup markedInterface := by
    rw [prepared_iff, haliases]
    decide +kernel
  have hword : ¬ Code.isWord "\ufeffsend" := by decide +kernel
  have hgiven : GivesUp setup markedInterface "\ufeffsend" := by
    unfold GivesUp
    rw [haliases]
    exact ⟨hprepared, [], _, _, rfl, by simp, by decide +kernel, by decide +kernel,
      by decide +kernel, hword⟩
  have hgenerate := (hgivesUp "\ufeffsend").2 hgiven
  exact ⟨setup, h, hgenerate, fun hout => houtcome.1 hout _ hgenerate⟩

end AbiBindings.Bindings
