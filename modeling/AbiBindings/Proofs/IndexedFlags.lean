import AbiBindings.Proofs.Stages

/-!
# Flags that do not count

A parameter may be marked as indexed wherever it stands, but only events index their inputs. Loading
takes the mark off the inputs of everything else and leaves it on outputs and on the components of
tuples. Here it is shown that nothing looks at the marks that are left: an interface is generated as
if only the inputs of events had been marked (`generate_observed`). So two documents that differ in
no other marks fail alike or have the same bindings (`stray_marks_are_ignored`).
-/

set_option autoImplicit false

namespace AbiBindings.Abi

open Traversal

/-! ## Marks -/

mutual

/-- A parameter without marks, its components included. -/
def Parameter.unmarked : Parameter → Parameter
  | ⟨name, type, components, _⟩ => ⟨name, type, Parameter.listUnmarked components, false⟩

/-- Parameters without marks. -/
def Parameter.listUnmarked : List Parameter → List Parameter
  | [] => []
  | p :: rest => p.unmarked :: Parameter.listUnmarked rest

end

/-- A parameter whose components have no marks. -/
def Parameter.markedOutside (p : Parameter) : Parameter :=
  { p.unmarked with indexed := p.indexed }

/-- An input with the marks that count for an entry of a kind. -/
def EntryKind.observed (kind : EntryKind) (p : Parameter) : Parameter :=
  if kind = .event then p.markedOutside else p.unmarked

/-- A declaration with no marks but those on the inputs of an event. -/
def Declaration.observed (d : Declaration) : Declaration :=
  { d with
    inputs := d.inputs.map d.kind.observed
    outputs := d.outputs.map Parameter.unmarked }

/-- An entry with no marks but those on the inputs of an event. -/
def Entry.observed (e : Entry) : Entry :=
  { e with
    inputs := e.inputs.map e.kind.observed
    outputs := e.outputs.map Parameter.unmarked }

/-- An interface with no marks but those on the inputs of events. -/
def Interface.observed (abi : Interface) : Interface :=
  ⟨abi.entries.map Entry.observed⟩

/-! ## Types do not depend on marks -/

namespace ParamType

mutual

/-- The type of a parameter does not depend on marks. -/
theorem ofParameter_unmarked : (p : Parameter) → ofParameter p.unmarked = ofParameter p
  | ⟨_, _, components, _⟩ => by
    rw [Parameter.unmarked, ofParameter, ofParameter, ofComponents_listUnmarked components]

/-- The types of components do not depend on marks. -/
theorem ofComponents_listUnmarked :
    (ps : List Parameter) → ofComponents (Parameter.listUnmarked ps) = ofComponents ps
  | [] => rfl
  | p :: rest => by
    have hname : p.unmarked.name = p.name := by
      cases p
      rfl
    rw [Parameter.listUnmarked, ofComponents, ofComponents, ofParameter_unmarked p,
      ofComponents_listUnmarked rest, hname]

end

end ParamType

/-- Whether a change of parameters leaves all that generation asks of them but their marks. -/
structure Keeps (change : Parameter → Parameter) : Prop where
  name : ∀ p, (change p).name = p.name
  paramType : ∀ p, (change p).paramType = p.paramType

/-- Without its marks, a parameter keeps the rest. -/
theorem keeps_unmarked : Keeps Parameter.unmarked where
  name p := by
    cases p
    rfl
  paramType p := by
    cases p with
    | mk name type components indexed =>
      have hcomponents := ParamType.ofComponents_listUnmarked components
      rw [Parameter.paramType, Parameter.paramType, ParamType.parse, ParamType.parse]
      exact congrArg (ParamType.ofText type) hcomponents

/-- Without the marks of its components, a parameter keeps the rest. -/
theorem keeps_markedOutside : Keeps Parameter.markedOutside where
  name p := keeps_unmarked.name p
  paramType p := keeps_unmarked.paramType p

/-- With the marks that count, a parameter keeps the rest. -/
theorem keeps_observed (kind : EntryKind) : Keeps kind.observed where
  name p := by
    unfold EntryKind.observed
    split
    · exact keeps_markedOutside.name p
    · exact keeps_unmarked.name p
  paramType p := by
    unfold EntryKind.observed
    split
    · exact keeps_markedOutside.paramType p
    · exact keeps_unmarked.paramType p

/-! ## Entries -/

/-- Types do not depend on marks. -/
theorem typesOf_map {change : Parameter → Parameter} (h : Keeps change)
    (parameters : List Parameter) : typesOf (parameters.map change) = typesOf parameters := by
  rw [typesOf_eq_mapM, typesOf_eq_mapM]
  exact mapM_map_eq_mapM fun p _ => h.paramType p

/-- Names do not depend on marks. -/
theorem map_name_map {change : Parameter → Parameter} (h : Keeps change)
    (parameters : List Parameter) :
    (parameters.map change).map (·.name) = parameters.map (·.name) := by
  rw [List.map_map]
  exact List.map_congr_left fun p _ => h.name p

/-- The kind of an entry does not depend on marks. -/
@[simp]
theorem Entry.kind_observed (e : Entry) : e.observed.kind = e.kind :=
  rfl

/-- The title of an entry does not depend on marks. -/
@[simp]
theorem Entry.title_observed (e : Entry) : e.observed.title = e.title :=
  rfl

/-- The input types of an entry do not depend on marks. -/
@[simp]
theorem Entry.inputTypes_observed (e : Entry) : e.observed.inputTypes = e.inputTypes :=
  typesOf_map (keeps_observed e.kind) e.inputs

namespace Interface

/-- Entries of a kind may be picked before or after marks are dropped. -/
theorem ofKind_observed (abi : Interface) (kind : EntryKind) :
    abi.observed.ofKind kind = (abi.ofKind kind).map Entry.observed := by
  simp only [ofKind, observed, List.filter_map]
  rfl

/-- The constructor may be picked before or after marks are dropped. -/
theorem constructor?_observed (abi : Interface) :
    abi.observed.constructor? = abi.constructor?.map Entry.observed := by
  rw [constructor?, constructor?, ofKind_observed, List.head?_map]

end Interface

/-! ## The rules do not depend on marks that do not count -/

namespace Declaration

/-- Only for an event are indexed inputs counted, and an event keeps the marks of its inputs. -/
theorem fault?_observed (behindConstructor : Bool) (d : Declaration) :
    d.observed.fault? behindConstructor = d.fault? behindConstructor := by
  have hcount : d.kind = .event → d.observed.indexedCount = d.indexedCount := by
    intro hevent
    have hindexed : ∀ p, (d.kind.observed p).indexed = p.indexed := by
      intro p
      rw [EntryKind.observed, if_pos hevent]
      rfl
    rw [indexedCount, indexedCount, observed, List.countP_map]
    simp only [Function.comp_def, hindexed]
  have htooMany : (d.kind = .event ∧ d.observed.indexedCount > d.indexLimit) ↔
      (d.kind = .event ∧ d.indexedCount > d.indexLimit) := by
    constructor
    · rintro ⟨hevent, hlimit⟩
      exact ⟨hevent, hcount hevent ▸ hlimit⟩
    · rintro ⟨hevent, hlimit⟩
      exact ⟨hevent, (hcount hevent).symm ▸ hlimit⟩
  have houtputs : d.observed.outputs.isEmpty = d.outputs.isEmpty := List.isEmpty_map
  have hkind : d.observed.kind = d.kind := rfl
  have hname : d.observed.givenName = d.givenName := rfl
  have hlimit : d.observed.indexLimit = d.indexLimit := rfl
  simp only [fault?, hkind, hname, hlimit, houtputs, htooMany]

/-- The entry of a declaration may be made before or after marks are dropped. -/
theorem entry_observed (d : Declaration) : d.observed.entry = d.entry.observed := by
  have hunindexed : ∀ p : Parameter, p.unmarked.unindexed = p.unindexed.unmarked := by
    intro p
    cases p
    rfl
  have hinputs : d.observed.entry.inputs = d.entry.observed.inputs := by
    by_cases hevent : d.kind = .event
    · simp only [entry, observed, Entry.observed, hevent, if_true]
    · simp only [entry, observed, Entry.observed, hevent, if_false, List.map_map]
      apply List.map_congr_left
      intro p _
      simp only [Function.comp_apply, EntryKind.observed, hevent, if_false]
      exact hunindexed p
  have hrest : d.observed.entry = { d.entry.observed with inputs := d.observed.entry.inputs } := rfl
  rw [hrest, hinputs]

end Declaration

/-- Declarations without the marks that do not count are checked with the same outcome, but for
those marks. -/
theorem checkFrom_observed (index : Nat) (behindConstructor : Bool)
    (declarations : List Declaration) :
    checkFrom index behindConstructor (declarations.map Declaration.observed) =
      (checkFrom index behindConstructor declarations).map (List.map Entry.observed) := by
  induction declarations generalizing index behindConstructor with
  | nil => rfl
  | cons d rest ih =>
    have hkind : d.observed.kind = d.kind := rfl
    rw [List.map_cons, checkFrom, checkFrom, Declaration.fault?_observed, hkind, ih,
      Declaration.entry_observed]
    cases d.fault? behindConstructor with
    | some fault => rfl
    | none =>
      cases checkFrom (index + 1) (behindConstructor || d.kind = .constructor) rest <;> rfl

/-- From declarations without the marks that do not count the same interface is loaded, but for
those marks. -/
theorem loadDeclarations_observed (allowEmpty : Bool) (declarations : List Declaration) :
    loadDeclarations allowEmpty (declarations.map Declaration.observed) =
      (loadDeclarations allowEmpty declarations).map Interface.observed := by
  rw [loadDeclarations, loadDeclarations, interface, interface, checkFrom_observed,
    List.isEmpty_map]
  split
  · rfl
  · cases checkFrom 0 false declarations <;> rfl

end AbiBindings.Abi

/-! ## Names do not depend on marks -/

namespace AbiBindings.Naming

open Abi Traversal

/-- A resolved entry with no marks but those on the inputs of an event. -/
def Resolved.observed (r : Resolved) : Resolved :=
  { r with entry := r.entry.observed }

/-- The types of an entry are read with the same outcome, but for marks. -/
theorem withTypes_observed (e : Entry) :
    withTypes e.observed = (withTypes e).map (Prod.map Entry.observed id) := by
  rw [withTypes, withTypes, Entry.inputTypes_observed]
  cases e.inputTypes <;> rfl

/-- The types of entries are read with the same outcome, but for marks. -/
theorem inputTypes_observed (entries : List Entry) :
    inputTypes (entries.map Entry.observed) =
      (inputTypes entries).map (List.map (Prod.map Entry.observed id)) := by
  rw [inputTypes_eq_mapM, inputTypes_eq_mapM]
  exact mapM_map_eq_map_mapM fun e _ => withTypes_observed e

/-- Whether a name is overloaded does not depend on marks. -/
theorem isOverloaded_observed (entries : List Entry) (name : String) :
    isOverloaded (entries.map Entry.observed) name = isOverloaded entries name := by
  rw [isOverloaded, isOverloaded, List.countP_map]
  rfl

/-- An entry is resolved to the same, but for marks. -/
theorem resolveOne_observed (aliases : Aliases) (entries : List Entry) (e : Entry)
    (types : List ParamType) :
    resolveOne aliases (entries.map Entry.observed) e.observed types =
      (resolveOne aliases entries e types).observed := by
  have hsuffix : suffix? (entries.map Entry.observed) e.observed types =
      suffix? entries e types := by
    rw [suffix?, suffix?, isOverloaded_observed]
    rfl
  unfold resolveOne
  rw [hsuffix, Entry.title_observed, Entry.kind_observed]
  dsimp only
  split <;> rfl

/-- A change that no key shows moves no repetition. -/
theorem repetition?_map {key : Resolved → String} {change : Resolved → Resolved}
    (h : ∀ r, key (change r) = key r) (before resolved : List Resolved) :
    repetition? key (before.map change) (resolved.map change) =
      (repetition? key before resolved).map (Prod.map change change) := by
  induction resolved generalizing before with
  | nil => rfl
  | cons r rest ih =>
    have hfind : (before.map change).find? (fun earlier => key earlier = key (change r)) =
        (before.find? fun earlier => key earlier = key r).map change := by
      rw [List.find?_map]
      simp only [Function.comp_def, h]
    rw [List.map_cons, repetition?, repetition?, hfind]
    cases before.find? fun earlier => key earlier = key r with
    | some earlier => rfl
    | none =>
      have hbefore : before.map change ++ [change r] = (before ++ [r]).map change := by
        rw [List.map_append, List.map_singleton]
      dsimp only [Option.map_none]
      rw [hbefore]
      exact ih (before ++ [r])

/-- Collisions do not depend on marks. -/
theorem checkUnique_observed {key : Resolved → String} (h : ∀ r, key r.observed = key r)
    (resolved : List Resolved) :
    checkUnique key (resolved.map Resolved.observed) = checkUnique key resolved := by
  have hrepetition := repetition?_map h [] resolved
  rw [List.map_nil] at hrepetition
  rw [checkUnique, checkUnique, hrepetition]
  cases repetition? key [] resolved with
  | none => rfl
  | some pair =>
    obtain ⟨first, second⟩ := pair
    simp only [Option.map_some, Prod.map_apply, h]
    rfl

/-- Resolution gives the names that it gives without the marks, or fails alike. -/
theorem resolve_observed (aliases : Aliases) (entries : List Entry) :
    resolve aliases (entries.map Entry.observed) =
      (resolve aliases entries).map (List.map Resolved.observed) := by
  apply bind_eq_map_bind (inputTypes_observed entries)
  intro typed
  have hresolved : (typed.map (Prod.map Entry.observed id)).map
      (fun p => resolveOne aliases (entries.map Entry.observed) p.1 p.2) =
        (typed.map fun p => resolveOne aliases entries p.1 p.2).map Resolved.observed := by
    rw [List.map_map, List.map_map]
    exact List.map_congr_left fun p _ => resolveOne_observed aliases entries p.1 p.2
  dsimp only
  rw [hresolved, checkUnique_observed fun _ => rfl, checkUnique_observed fun _ => rfl]
  apply bind_eq_map_bind (eq_map_id _)
  intro _
  apply bind_eq_map_bind (eq_map_id _)
  intro _
  rfl

end AbiBindings.Naming

/-! ## Bindings do not depend on marks -/

namespace AbiBindings.Bindings

open Abi Traversal

variable {policy : TypePolicy} {location : Location}

/-- The descriptors of parameters do not depend on marks. -/
theorem describeAll_map {change : Parameter → Parameter} (h : Keeps change)
    (parameters : List Parameter) :
    describeAll policy location (parameters.map change) =
      describeAll policy location parameters := by
  rw [describeAll_eq_mapM, describeAll_eq_mapM]
  apply mapM_map_eq_mapM
  intro p _
  rw [describe, describe, h.paramType]

/-- The arguments for parameters do not depend on marks. -/
theorem arguments_map {change : Parameter → Parameter} (h : Keeps change) (reserved : List String)
    (parameters : List Parameter) :
    arguments policy location reserved (parameters.map change) =
      arguments policy location reserved parameters := by
  rw [arguments, arguments, describeAll_map h, map_name_map h]

/-- The deploy operation does not depend on marks. -/
theorem deployment_observed (abi : Interface) :
    deployment policy abi.observed = deployment policy abi := by
  rw [deployment, deployment, Interface.constructor?_observed]
  cases abi.constructor? with
  | none => rfl
  | some e =>
    have harguments : arguments policy .constructor deployNames e.observed.inputs =
        arguments policy .constructor deployNames e.inputs :=
      arguments_map (keeps_observed e.kind) deployNames e.inputs
    dsimp only [Option.map_some]
    rw [harguments]
    rfl

/-- The method of a function does not depend on marks. -/
theorem method_observed (r : Naming.Resolved) : method policy r.observed = method policy r := by
  have hinputs : arguments policy (.function r.entry.title) [] r.observed.entry.inputs =
      arguments policy (.function r.entry.title) [] r.entry.inputs :=
    arguments_map (keeps_observed r.entry.kind) [] r.entry.inputs
  have houtputs : describeAll policy (.function r.entry.title) r.observed.entry.outputs =
      describeAll policy (.function r.entry.title) r.entry.outputs :=
    describeAll_map keeps_unmarked r.entry.outputs
  have htitle : r.observed.entry.title = r.entry.title := rfl
  unfold method
  dsimp only
  rw [htitle, hinputs, houtputs]
  rfl

/-- The fields of an event do not depend on the marks of components; those of the inputs stay. -/
theorem fields_markedOutside (names : List String) (parameters : List Parameter)
    (types : List ParamType) :
    fields policy location names (parameters.map Parameter.markedOutside) types =
      fields policy location names parameters types := by
  induction names generalizing parameters types with
  | nil => rfl
  | cons name names ih =>
    cases parameters with
    | nil => rfl
    | cons p parameters =>
      cases types with
      | nil => rfl
      | cons type types =>
        have hdescribe : describe policy location p.markedOutside = describe policy location p := by
          rw [describe, describe, keeps_markedOutside.paramType]
        have hindexed : p.markedOutside.indexed = p.indexed := rfl
        rw [List.map_cons, fields, fields, hdescribe, ih parameters types, hindexed]

/-- The binding of an event depends on no marks but those on its inputs. -/
theorem event_observed {r : Naming.Resolved} (h : r.entry.kind = .event) :
    event policy r.observed = event policy r := by
  have hinputs : r.observed.entry.inputs = r.entry.inputs.map Parameter.markedOutside := by
    apply List.map_congr_left
    intro p _
    exact if_pos h
  have hunnamed : (r.entry.inputs.map Parameter.markedOutside).all (fun p => p.name = "") =
      r.entry.inputs.all fun p => p.name = "" := by
    simp only [List.all_map, Function.comp_def, keeps_markedOutside.name]
  have htitle : r.observed.entry.title = r.entry.title := rfl
  have htypes : r.observed.types = r.types := rfl
  unfold event
  dsimp only
  rw [hinputs, htitle, htypes, map_name_map keeps_markedOutside, fields_markedOutside, hunnamed]
  rfl

/-- The methods do not depend on marks. -/
theorem methods_observed (functions : List Naming.Resolved) :
    methods policy (functions.map Naming.Resolved.observed) = methods policy functions := by
  rw [methods_eq_mapM, methods_eq_mapM]
  exact mapM_map_eq_mapM fun r _ => method_observed r

/-- The bindings of events depend on no marks but those on their inputs. -/
theorem events_observed {named : List Naming.Resolved} (h : ∀ r ∈ named, r.entry.kind = .event) :
    events policy (named.map Naming.Resolved.observed) = events policy named := by
  rw [events_eq_mapM, events_eq_mapM]
  exact mapM_map_eq_mapM fun r hr => event_observed (h r hr)

/-- Entries that events are resolved to are events. -/
theorem kind_of_mem_resolve_events {aliases : Naming.Aliases} {abi : Interface}
    {named : List Naming.Resolved} (h : Naming.resolve aliases abi.events = .ok named) :
    ∀ r ∈ named, r.entry.kind = .event := by
  intro r hr
  obtain ⟨-, -, rfl⟩ := Naming.resolve_eq_ok_iff.1 h
  have hentry := Naming.entry_mem_of_mem_candidates hr
  simpa using (List.mem_filter.1 hentry).2

/-- An interface is generated as if only the inputs of events had been marked. -/
theorem generate_observed (settings : Settings) (name : String) (abi : Interface)
    (code : Bytecode) :
    generate settings name abi.observed code = generate settings name abi code := by
  have hresolve : ∀ aliases kind, Naming.resolve aliases (abi.observed.ofKind kind) =
      (Naming.resolve aliases (abi.ofKind kind)).map (List.map Naming.Resolved.observed) := by
    intro aliases kind
    rw [Interface.ofKind_observed, Naming.resolve_observed]
  rw [generate, generate, deployment_observed]
  cases settings.setup name with
  | error e => rfl
  | ok setup =>
    have hfunctions := hresolve setup.aliases .function
    have hevents := hresolve [] .event
    dsimp only [Interface.functions, Interface.events, bind, Except.bind]
    rw [hfunctions, hevents]
    cases Naming.resolve setup.aliases (abi.ofKind .function) with
    | error e => rfl
    | ok functions =>
      cases hnamed : Naming.resolve [] (abi.ofKind .event) with
      | error e => rfl
      | ok named =>
        have hkind := kind_of_mem_resolve_events hnamed
        dsimp only [Except.map]
        rw [methods_observed, events_observed hkind]

end AbiBindings.Bindings

/-! ## Comparing declarations -/

namespace AbiBindings.Abi

mutual

/-- Decides whether two parameters are the same. -/
def Parameter.decideEq : (p q : Parameter) → Decidable (p = q)
  | ⟨name, type, components, indexed⟩, ⟨name', type', components', indexed'⟩ =>
    have := Parameter.decideListEq components components'
    decidable_of_iff
      (name = name' ∧ type = type' ∧ components = components' ∧ indexed = indexed') (by simp)

/-- Decides whether two lists of parameters are the same. -/
def Parameter.decideListEq : (ps qs : List Parameter) → Decidable (ps = qs)
  | [], [] => isTrue rfl
  | p :: ps, q :: qs =>
    have := p.decideEq q
    have := Parameter.decideListEq ps qs
    decidable_of_iff (p = q ∧ ps = qs) (by simp)
  | [], _ :: _ => isFalse (by simp)
  | _ :: _, [] => isFalse (by simp)

end

/-- Parameters are compared by what they hold. -/
instance : DecidableEq Parameter :=
  Parameter.decideEq

deriving instance DecidableEq for Declaration

/-- Whether declarations are the same but for marks elsewhere than on the inputs of events. -/
def SameButStrayMarks (declarations others : List Declaration) : Prop :=
  declarations.map Declaration.observed = others.map Declaration.observed

/-- Whether declarations differ in stray marks alone is decided by dropping them. -/
instance (declarations others : List Declaration) :
    Decidable (SameButStrayMarks declarations others) :=
  inferInstanceAs (Decidable (_ = _))

end AbiBindings.Abi

/-! ## Documents that differ in marks that do not count -/

namespace AbiBindings.Bindings

open Abi Traversal

/-- What it comes to if an interface is loaded from a document and bindings are generated. -/
def loadAndGenerate (allowEmpty : Bool) (delivery : Json.Delivery) (document : List UInt8)
    (settings : Settings) (name : String) (code : Bytecode) :
    Except LoadError (Except GenerateError ContractBindings) :=
  (load allowEmpty delivery document).map fun abi => generate settings name abi code

/-- What comes of a document is what comes of its declarations without stray marks. -/
theorem loadAndGenerate_eq {allowEmpty : Bool} {delivery : Json.Delivery} {document : List UInt8}
    {declarations : List Declaration} (h : readDeclarations delivery document = .ok declarations)
    (settings : Settings) (name : String) (code : Bytecode) :
    loadAndGenerate allowEmpty delivery document settings name code =
      (loadDeclarations allowEmpty (declarations.map Declaration.observed)).map
        fun abi => generate settings name abi code := by
  rw [loadAndGenerate, load, h, loadDeclarations_observed]
  dsimp only
  cases loadDeclarations allowEmpty declarations with
  | error e => rfl
  | ok abi =>
    dsimp only [Except.map]
    rw [generate_observed]

/-- Documents whose declarations differ in stray marks alone come to the same: they cannot be loaded
for the same reason, generation fails by the same error, or the bindings are the same. -/
theorem stray_marks_are_ignored {delivery delivery' : Json.Delivery}
    {document document' : List UInt8} {declarations declarations' : List Declaration}
    (hread : readDeclarations delivery document = .ok declarations)
    (hread' : readDeclarations delivery' document' = .ok declarations')
    (hsame : SameButStrayMarks declarations declarations') (allowEmpty : Bool)
    (settings : Settings) (name : String) (code : Bytecode) :
    loadAndGenerate allowEmpty delivery document settings name code =
      loadAndGenerate allowEmpty delivery' document' settings name code := by
  rw [loadAndGenerate_eq hread, loadAndGenerate_eq hread', hsame]

/-- A relay with a function whose output is marked or not. -/
def relayDocument (mark : String) : List UInt8 :=
  Text.Utf8.encode <|
    "[\x7b\"type\":\"function\",\"name\":\"pass\",\"outputs\":[\x7b\"type\":\"bool\"" ++ mark ++
      "\x7d]\x7d]"

/-- The declarations of a relay, with or without marks that do not count. -/
def relayDeclarations (marked : Bool) : List Declaration :=
  [⟨.function, some "pass", [], [⟨"", "bool", [], marked⟩], none, false, false, false⟩]

/-- The mark of the output changes nothing, and bindings are generated. -/
theorem stray_marks_are_ignored_relay :
    relayDeclarations true ≠ relayDeclarations false ∧
      loadAndGenerate false .bytes (relayDocument ",\"indexed\":true") {} "Relay" .notProvided =
        loadAndGenerate false .text (relayDocument "") {} "Relay" .notProvided ∧
      ∃ b, loadAndGenerate false .text (relayDocument "") {} "Relay" .notProvided =
        .ok (.ok b) := by
  have hmarked : readDeclarations .bytes (relayDocument ",\"indexed\":true") =
      .ok (relayDeclarations true) := by
    decide +kernel
  have hunmarked : readDeclarations .text (relayDocument "") = .ok (relayDeclarations false) := by
    decide +kernel
  have hsame : SameButStrayMarks (relayDeclarations true) (relayDeclarations false) := rfl
  refine ⟨by decide, stray_marks_are_ignored hmarked hunmarked hsame false _ _ _, ?_⟩
  have hgenerated : (generate {} "Relay" ⟨(relayDeclarations false).map Declaration.entry⟩
      .notProvided).isOk := by
    decide +kernel
  obtain ⟨b, hb⟩ := isOk_iff.1 hgenerated
  refine ⟨b, ?_⟩
  rw [loadAndGenerate, load, hunmarked, ← hb]
  rfl

end AbiBindings.Bindings
