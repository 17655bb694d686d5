import AbiBindings.Proofs.Generation
import AbiBindings.Proofs.InputNames

/-!
# Generated names are unique

Whatever is generated, no two members have the same qualified name, no two events share an accessor
or a filter builder, and the inputs of a member have names of their own. Resolution keeps the names
of members apart, the search for free names those of inputs. `generate_names_unique` says so.
-/

set_option autoImplicit false

namespace AbiBindings.Bindings

open Abi Traversal

variable {policy : TypePolicy} {location : Location} {parameters : List Parameter}

/-! ## Names of inputs -/

/-- As many types are described as there are parameters. -/
theorem length_describeAll {types : List TypeDescriptor}
    (h : describeAll policy location parameters = .ok types) :
    types.length = parameters.length := by
  rw [describeAll_eq_mapM] at h
  exact (mapM_eq_ok_iff.1 h).length_eq.symm

/-- Arguments bear the names that are found for their parameters. -/
theorem arguments_names {reserved : List String} {inputs : List Argument}
    (h : arguments policy location reserved parameters = .ok inputs) :
    inputs.map (·.name) = Naming.inputNames reserved (parameters.map (·.name)) := by
  obtain ⟨types, htypes, h⟩ := bind_eq_ok_iff.1 h
  obtain rfl := Except.ok.inj h
  have hlength : (Naming.inputNames reserved (parameters.map (·.name))).length = types.length := by
    rw [Naming.length_inputNames, List.length_map, length_describeAll htypes]
  rw [← List.map_uncurry_zip_eq_zipWith, List.map_map]
  exact List.map_fst_zip (Nat.le_of_eq hlength)

/-- Fields bear names from the front of those given. -/
theorem fields_names {names : List String} {types : List ParamType} {fs : List Field}
    (h : fields policy location names parameters types = .ok fs) :
    fs.map (·.name) <+: names := by
  induction names generalizing parameters types fs with
  | nil =>
    obtain rfl := Except.ok.inj h
    exact List.prefix_rfl
  | cons name names ih =>
    cases parameters with
    | nil =>
      obtain rfl := Except.ok.inj h
      exact List.nil_prefix
    | cons p parameters =>
      cases types with
      | nil =>
        obtain rfl := Except.ok.inj h
        exact List.nil_prefix
      | cons type types =>
        obtain ⟨descriptor, -, h⟩ := bind_eq_ok_iff.1 h
        obtain ⟨rest, hrest, h⟩ := bind_eq_ok_iff.1 h
        obtain rfl := Except.ok.inj h
        exact List.cons_prefix_cons.2 ⟨rfl, ih hrest⟩

/-! ## Members -/

/-- Methods bear the accessors of their functions. -/
theorem methods_names {functions : List Naming.Resolved} {ms : List Method}
    (h : methods policy functions = .ok ms) :
    ms.map (·.name) = functions.map Naming.Resolved.accessor := by
  rw [methods_eq_mapM] at h
  exact map_eq_map_of_mapM_eq_ok h fun r m hm => (method_eq_ok hm).name

/-- The inputs of a method have names of their own. -/
theorem methods_inputs_nodup {functions : List Naming.Resolved} {ms : List Method}
    (h : methods policy functions = .ok ms) {m : Method} (hm : m ∈ ms) :
    (m.inputs.map (·.name)).Nodup := by
  rw [methods_eq_mapM] at h
  obtain ⟨r, -, hr⟩ := exists_of_mem_of_mapM_eq_ok h hm
  rw [arguments_names (method_eq_ok hr).inputs]
  exact Naming.inputNames_nodup _ _

/-- Events bear the identifiers that resolution gives them. -/
theorem events_identifiers {named : List Naming.Resolved} {es : List EventBinding}
    (h : events policy named = .ok es) :
    es.map (·.identifier) = named.map Naming.Resolved.identifier := by
  rw [events_eq_mapM] at h
  exact map_eq_map_of_mapM_eq_ok h fun r e he => (event_eq_ok he).identifier

/-- Events bear the accessors that resolution gives them. -/
theorem events_accessors {named : List Naming.Resolved} {es : List EventBinding}
    (h : events policy named = .ok es) :
    es.map (·.accessor) = named.map Naming.Resolved.accessor := by
  rw [events_eq_mapM] at h
  exact map_eq_map_of_mapM_eq_ok h fun r e he => (event_eq_ok he).accessor

/-- The fields of an event have names of their own. -/
theorem events_fields_nodup {named : List Naming.Resolved} {es : List EventBinding}
    (h : events policy named = .ok es) {e : EventBinding} (he : e ∈ es) :
    (e.fields.map (·.name)).Nodup := by
  rw [events_eq_mapM] at h
  obtain ⟨r, -, hr⟩ := exists_of_mem_of_mapM_eq_ok h he
  exact (Naming.inputNames_nodup _ _).sublist (fields_names (event_eq_ok hr).fields).sublist

/-- The inputs of the deploy operation have names of their own, other than those it uses itself. -/
theorem deployment_names {abi : Interface} {d : Deployment} (h : deployment policy abi = .ok d) :
    (d.inputs.map (·.name)).Nodup ∧ ∀ a ∈ d.inputs, a.name ∉ deployNames := by
  unfold deployment at h
  split at h
  · obtain rfl := Except.ok.inj h
    simp
  · obtain ⟨inputs, hinputs, h⟩ := bind_eq_ok_iff.1 h
    obtain rfl := Except.ok.inj h
    have hnames := arguments_names hinputs
    refine ⟨?_, ?_⟩
    · rw [hnames]
      exact Naming.inputNames_nodup _ _
    · intro a ha
      have hmem : a.name ∈ inputs.map (·.name) := List.mem_map_of_mem ha
      rw [hnames] at hmem
      exact Naming.not_mem_reserved_of_mem_inputNames hmem

/-! ## All members -/

/-- The scopes of functions and of events are different, and neither is that of the deploy
operation, so the names of members need to differ only within a scope. -/
theorem qualified_nodup {b : ContractBindings} (hmethods : (b.methods.map (·.name)).Nodup)
    (hevents : (b.events.map (·.identifier)).Nodup) : (b.members.map Member.qualified).Nodup := by
  have hsplit : b.members.map Member.qualified = "Contract::deploy" ::
      ((b.methods.map (·.name)).map ("Methods::" ++ ·) ++
        (b.events.map (·.identifier)).map ("events::" ++ ·)) := by
    simp only [ContractBindings.members, List.map_cons, List.map_append, List.map_map]
    rfl
  rw [hsplit, List.nodup_cons, List.nodup_append]
  refine ⟨?_, ?_, ?_, ?_⟩
  · simp [← String.toList_inj]
  · exact hmethods.map fun s t h => (String.append_right_inj _).1 h
  · exact hevents.map fun s t h => (String.append_right_inj _).1 h
  · intro s hs t ht heq
    obtain ⟨m, -, rfl⟩ := List.mem_map.1 hs
    obtain ⟨e, -, rfl⟩ := List.mem_map.1 ht
    simp [← String.toList_inj] at heq

/-- All that is generated has names of its own: the qualified names of members, the accessors and
the filter builders of events, and the inputs of each member, where those of the deploy operation
also avoid the names that it uses itself. -/
theorem generate_names_unique {settings : Settings} {name : String} {abi : Interface}
    {code : Bytecode} {b : ContractBindings} (h : generate settings name abi code = .ok b) :
    (b.members.map Member.qualified).Nodup ∧
      (b.events.map EventBinding.accessor).Nodup ∧
      (b.events.map EventBinding.builder).Nodup ∧
      (∀ m ∈ b.members, (m.inputs.map Argument.name).Nodup) ∧
      ∀ m ∈ b.members, ∀ provided, m.kind = .deploy provided →
        ∀ a ∈ m.inputs, a.name ≠ "web3" ∧ a.name ≠ "binary" := by
  obtain ⟨setup, d, ms, es, -, hprepared, hd, hms, hes, rfl⟩ := generate_eq_ok h
  have hmethods : (ms.map (·.name)).Nodup := by
    rw [methods_names hms]
    exact hprepared.functionNames.1
  have hidentifiers : (es.map (·.identifier)).Nodup := by
    rw [events_identifiers hes]
    exact hprepared.eventNames.2
  have hbuilders : es.map EventBinding.builder = (es.map (·.identifier)).map (· ++ "Builder") := by
    rw [List.map_map]
    rfl
  obtain ⟨hdeploy, hreserved⟩ := deployment_names hd
  refine ⟨qualified_nodup hmethods hidentifiers, ?_, ?_, ?_, ?_⟩
  · rw [events_accessors hes]
    exact hprepared.eventNames.1
  · rw [hbuilders]
    exact hidentifiers.map fun s t hst => (String.append_left_inj _).1 hst
  · intro m hm
    rcases List.mem_cons.1 hm with rfl | hm
    · exact hdeploy
    · rcases List.mem_append.1 hm with hm | hm
      · obtain ⟨method, hmethod, rfl⟩ := List.mem_map.1 hm
        exact methods_inputs_nodup hms hmethod
      · obtain ⟨e, he, rfl⟩ := List.mem_map.1 hm
        have hfields := events_fields_nodup hes he
        simpa [EventBinding.member, Function.comp_def] using hfields
  · intro m hm provided hkind a ha
    rcases List.mem_cons.1 hm with rfl | hm
    · simpa [deployNames] using hreserved a ha
    · rcases List.mem_append.1 hm with hm | hm
      · obtain ⟨method, -, rfl⟩ := List.mem_map.1 hm
        cases hkind
      · obtain ⟨e, -, rfl⟩ := List.mem_map.1 hm
        cases hkind

/-- Settings that give one of several functions called `move` a name. -/
def ledgerSettings : Settings := { aliases := [("move(address)", "sendAll")] }

/-- An interface with overloads, with inputs that bear a reserved name, no name or the same name. -/
def ledgerInterface : Interface :=
  ⟨[⟨.constructor, none, [⟨"web3", "uint8", [], false⟩, ⟨"", "bool", [], false⟩], [], .payable,
      false⟩,
    ⟨.function, some "move", [⟨"to", "address", [], false⟩], [], .nonpayable, false⟩,
    ⟨.function, some "move", [⟨"to", "address", [], false⟩, ⟨"to", "uint8[]", [], false⟩], [],
      .nonpayable, false⟩,
    ⟨.event, some "Move", [⟨"from", "address", [], true⟩, ⟨"from", "address", [], true⟩], [],
      .nonpayable, false⟩]⟩

/-- Bindings are generated for the ledger. -/
theorem exists_generate_ledger :
    ∃ b, generate ledgerSettings "Ledger" ledgerInterface .notProvided = .ok b := by
  have hsetup : ∃ setup, ledgerSettings.setup "Ledger" = .ok setup :=
    isOk_iff.1 (by decide +kernel)
  obtain ⟨setup, h⟩ := hsetup
  obtain ⟨haliases, -⟩ := aliases_of_setup h
  rw [exists_generate_iff h, prepared_iff, haliases]
  decide +kernel

/-- The names of the ledger are unique, and no input of its deploy operation is called `web3`. -/
theorem generate_names_unique_ledger :
    ∃ b, generate ledgerSettings "Ledger" ledgerInterface .notProvided = .ok b ∧
      (b.members.map Member.qualified).Nodup ∧
      ∀ m ∈ b.members, ∀ provided, m.kind = .deploy provided → ∀ a ∈ m.inputs, a.name ≠ "web3" := by
  obtain ⟨b, hb⟩ := exists_generate_ledger
  obtain ⟨hmembers, -, -, -, hdeploy⟩ := generate_names_unique hb
  exact ⟨b, hb, hmembers, fun m hm provided hkind a ha => (hdeploy m hm provided hkind a ha).1⟩

end AbiBindings.Bindings
