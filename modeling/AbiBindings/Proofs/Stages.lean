import AbiBindings.Bindings.Generate
import AbiBindings.Proofs.Resolution

/-!
# The stages of generation

What each stage behind resolution does when the inputs it is given have types and when they have
none. Deployment and methods read types a second time and fail by a parameter without a type or by
a name that cannot be written; events fail by nothing that resolution lets pass.
-/

set_option autoImplicit false

namespace AbiBindings.Bindings

open Abi Traversal

variable {α β : Type} {policy : TypePolicy} {location : Location} {parameters : List Parameter}

/-- Whether a computation fails by a parameter that has no type, and says where it stands. -/
def Blames (parameters : List Parameter) (location : Location) (x : Except GenerateError α) :
    Prop :=
  ∃ p ∈ parameters, ∃ error, p.paramType = .error error ∧ x = .error (.ofType location error)

/-- Whether a computation fails by a collision of names. -/
def Collides (x : Except GenerateError α) : Prop :=
  ∃ identifier first second, x = .error (.collision identifier first second)

/-- A fault of a parameter is that of all that follows. -/
theorem Blames.bind {x : Except GenerateError α} (h : Blames parameters location x)
    (f : α → Except GenerateError β) : Blames parameters location (x >>= f) := by
  obtain ⟨p, hp, error, hblame, rfl⟩ := h
  exact ⟨p, hp, error, hblame, rfl⟩

/-- A collision is the fault of all that follows. -/
theorem Collides.bind {x : Except GenerateError α} (h : Collides x)
    (f : α → Except GenerateError β) : Collides (x >>= f) := by
  obtain ⟨identifier, first, second, rfl⟩ := h
  exact ⟨identifier, first, second, rfl⟩

/-- Whether an error is that generation gives up altogether. -/
def IsFatal (e : GenerateError) : Prop :=
  ∃ text, e = .unwritable text ∨ e = .unreadable text

/-- A fault of a parameter is an error that does not stop the generator. -/
theorem Blames.exists_error {x : Except GenerateError α} (h : Blames parameters location x) :
    ∃ e, x = .error e ∧ ¬ IsFatal e := by
  obtain ⟨p, -, error, -, rfl⟩ := h
  exact ⟨_, rfl, by simp [IsFatal, GenerateError.ofType]⟩

/-- A collision is an error that does not stop the generator. -/
theorem Collides.exists_error {x : Except GenerateError α} (h : Collides x) :
    ∃ e, x = .error e ∧ ¬ IsFatal e := by
  obtain ⟨identifier, first, second, rfl⟩ := h
  exact ⟨_, rfl, by simp [IsFatal]⟩

/-- Only a parameter without a type is blamed. -/
theorem Blames.not_allTyped {x : Except GenerateError α} (h : Blames parameters location x) :
    ¬ AllTyped parameters := by
  obtain ⟨p, hp, error, hblame, -⟩ := h
  intro htyped
  obtain ⟨type, htype⟩ := htyped p hp
  rw [hblame] at htype
  cases htype

/-! ## Resolution -/

/-- If an input has no type, resolution fails for one. -/
theorem resolve_blames {aliases : Naming.Aliases} {entries : List Entry}
    (h : ¬ Naming.InputsTyped entries) :
    ∃ e ∈ entries, Blames e.inputs (Naming.locationOf e) (Naming.resolve aliases entries) :=
  Naming.resolve_eq_typeError h

/-- If entries are not told apart, resolution fails for a collision. -/
theorem resolve_collides {aliases : Naming.Aliases} {entries : List Entry}
    (h : Naming.InputsTyped entries)
    (hdistinct : ¬ Naming.Distinct (Naming.candidates aliases entries)) :
    Collides (Naming.resolve aliases entries) :=
  Naming.resolve_eq_collision h hdistinct

/-- The location of a function. -/
theorem locationOf_of_mem_functions {abi : Interface} {e : Entry} (h : e ∈ abi.functions) :
    Naming.locationOf e = .function e.title := by
  have hkind : e.kind = .function := by simpa using (List.mem_filter.1 h).2
  simp [Naming.locationOf, hkind]

/-- The location of an event. -/
theorem locationOf_of_mem_events {abi : Interface} {e : Entry} (h : e ∈ abi.events) :
    Naming.locationOf e = .event e.title := by
  have hkind : e.kind = .event := by simpa using (List.mem_filter.1 h).2
  simp [Naming.locationOf, hkind]

/-! ## Parameters -/

/-- A parameter is described exactly if it has a type. -/
theorem exists_describe_iff {p : Parameter} :
    (∃ type, describe policy location p = .ok type) ↔ ∃ type, p.paramType = .ok type := by
  unfold describe
  cases p.paramType with
  | ok type => simp
  | error error => simp

/-- Parameters are described one by one. -/
theorem describeAll_eq_mapM : describeAll policy location parameters =
    parameters.mapM (describe policy location) := by
  induction parameters with
  | nil => rfl
  | cons p rest ih =>
    rw [List.mapM_cons, describeAll, ih]
    rfl

/-- Parameters are described exactly if they have types. -/
theorem exists_describeAll_iff :
    (∃ types, describeAll policy location parameters = .ok types) ↔ AllTyped parameters := by
  rw [describeAll_eq_mapM, exists_mapM_ok_iff, AllTyped]
  simp only [exists_describe_iff]

/-- Parameters that do not all have types cannot be described: one without a type is to blame. -/
theorem describeAll_blames (h : ¬ AllTyped parameters) :
    Blames parameters location (describeAll policy location parameters) := by
  obtain ⟨fault, hfault⟩ := exists_error_of_not_ok (mt exists_describeAll_iff.1 h)
  have hmapM := hfault
  rw [describeAll_eq_mapM, mapM_eq_error_iff] at hmapM
  obtain ⟨before, p, after, hparameters, -, hp⟩ := hmapM
  unfold describe at hp
  split at hp
  · cases hp
  · rename_i error herror
    obtain rfl := Except.error.inj hp
    exact ⟨p, by simp [hparameters], error, herror, hfault⟩

/-- Arguments are made for parameters exactly if they have types. -/
theorem exists_arguments_iff {reserved : List String} :
    (∃ inputs, arguments policy location reserved parameters = .ok inputs) ↔
      AllTyped parameters := by
  rw [← @exists_describeAll_iff policy location, arguments]
  constructor
  · rintro ⟨inputs, h⟩
    obtain ⟨types, htypes, -⟩ := bind_eq_ok_iff.1 h
    exact ⟨types, htypes⟩
  · rintro ⟨types, htypes⟩
    exact ⟨_, bind_eq_ok_iff.2 ⟨types, htypes, rfl⟩⟩

/-- If a parameter has no type, making arguments fails for one. -/
theorem arguments_blames {reserved : List String} (h : ¬ AllTyped parameters) :
    Blames parameters location (arguments policy location reserved parameters) :=
  (describeAll_blames h).bind _

/-! ## The deploy operation -/

/-- The inputs of the first constructor, none without a constructor. -/
def constructorInputs (abi : Interface) : List Parameter :=
  match abi.constructor? with
  | some e => e.inputs
  | none => []

/-- The deploy operation is made if the inputs of the constructor have types. -/
theorem exists_deployment {abi : Interface} (h : AllTyped (constructorInputs abi)) :
    ∃ d, deployment policy abi = .ok d := by
  unfold deployment
  unfold constructorInputs at h
  cases hconstructor : abi.constructor? with
  | none => exact ⟨_, rfl⟩
  | some e =>
    rw [hconstructor] at h
    obtain ⟨inputs, hinputs⟩ := exists_arguments_iff.2 h
    exact ⟨_, bind_eq_ok_iff.2 ⟨inputs, hinputs, rfl⟩⟩

/-- If an input of the constructor has no type, making the deploy operation fails for one. -/
theorem deployment_blames {abi : Interface} (h : ¬ AllTyped (constructorInputs abi)) :
    Blames (constructorInputs abi) .constructor (deployment policy abi) := by
  unfold deployment
  unfold constructorInputs at h ⊢
  cases hconstructor : abi.constructor? with
  | none =>
    rw [hconstructor] at h
    exact absurd (by simp [AllTyped]) h
  | some e =>
    rw [hconstructor] at h
    exact (arguments_blames h).bind _

/-! ## Methods -/

/-- Whether nothing behind its inputs keeps the method of a function from being written: all outputs
have types, and its name is a word. -/
def Writable (r : Naming.Resolved) : Prop :=
  AllTyped r.entry.outputs ∧ Code.isWord r.accessor

/-- Whether an accessor can be written is decided by its characters. -/
instance (r : Naming.Resolved) : Decidable (Writable r) :=
  inferInstanceAs (Decidable (_ ∧ _))

/-- What the method of a function is made of. -/
structure MethodOf (policy : TypePolicy) (r : Naming.Resolved) (m : Method) : Prop where
  name : m.name = r.accessor
  signature : m.signature = r.signature
  selector : m.selector = Hash.selector (Hash.keccak256 (Text.Utf8.encode r.signature))
  mutability : m.mutability = r.entry.mutability
  inputs : arguments policy (.function r.entry.title) [] r.entry.inputs = .ok m.inputs
  outputs : describeAll policy (.function r.entry.title) r.entry.outputs = .ok m.outputs

/-- What a method that is made for a function holds. -/
theorem method_eq_ok {r : Naming.Resolved} {m : Method} (h : method policy r = .ok m) :
    MethodOf policy r m := by
  obtain ⟨inputs, hinputs, h⟩ := bind_eq_ok_iff.1 h
  obtain ⟨outputs, houtputs, h⟩ := bind_eq_ok_iff.1 h
  split at h
  · obtain rfl := Except.ok.inj h
    exact ⟨rfl, rfl, rfl, rfl, hinputs, houtputs⟩
  · cases h

/-- The method of a function all of whose types are found depends on its name alone. -/
theorem method_of_allTyped (policy : TypePolicy) {r : Naming.Resolved}
    (hinputs : AllTyped r.entry.inputs) (houtputs : AllTyped r.entry.outputs) :
    ∃ m, method policy r =
      if Code.isWord r.accessor then .ok m else .error (.unwritable r.accessor) := by
  obtain ⟨inputs, hinputs⟩ := exists_arguments_iff.2 hinputs
  obtain ⟨outputs, houtputs⟩ := exists_describeAll_iff.2 houtputs
  rw [method, hinputs, houtputs]
  exact ⟨_, rfl⟩

/-- A method is made exactly if all types are read and its accessor can be written. -/
theorem exists_method_iff {r : Naming.Resolved} :
    (∃ m, method policy r = .ok m) ↔ AllTyped r.entry.inputs ∧ Writable r := by
  constructor
  · rintro ⟨m, h⟩
    have hinputs := exists_arguments_iff.1 ⟨_, (method_eq_ok h).inputs⟩
    have houtputs := exists_describeAll_iff.1 ⟨_, (method_eq_ok h).outputs⟩
    refine ⟨hinputs, houtputs, ?_⟩
    by_contra hword
    obtain ⟨m', hm'⟩ := method_of_allTyped policy hinputs houtputs
    rw [hm', if_neg hword] at h
    cases h
  · rintro ⟨hinputs, houtputs, hword⟩
    obtain ⟨m, hm⟩ := method_of_allTyped policy hinputs houtputs
    rw [hm]
    exact ⟨m, if_pos hword⟩

/-- If an output has no type, making a method fails for one. -/
theorem method_blames {r : Naming.Resolved} (hinputs : AllTyped r.entry.inputs)
    (houtputs : ¬ AllTyped r.entry.outputs) :
    Blames r.entry.outputs (.function r.entry.title) (method policy r) := by
  obtain ⟨inputs, hinputs⟩ := exists_arguments_iff.2 hinputs
  rw [method, hinputs]
  exact (describeAll_blames houtputs).bind _

/-- If all has types but the accessor cannot be written, making a method fails for that. -/
theorem method_eq_unwritable {r : Naming.Resolved} (hinputs : AllTyped r.entry.inputs)
    (houtputs : AllTyped r.entry.outputs) (hword : ¬ Code.isWord r.accessor) :
    method policy r = .error (.unwritable r.accessor) := by
  obtain ⟨m, hm⟩ := method_of_allTyped policy hinputs houtputs
  rw [hm, if_neg hword]

/-- Methods are made one by one. -/
theorem methods_eq_mapM (functions : List Naming.Resolved) :
    methods policy functions = functions.mapM (method policy) := by
  induction functions with
  | nil => rfl
  | cons r rest ih =>
    rw [List.mapM_cons, methods, ih]
    rfl

/-- Methods are made of functions whose inputs have types exactly if all of them are writable. -/
theorem exists_methods_iff {functions : List Naming.Resolved}
    (h : ∀ r ∈ functions, AllTyped r.entry.inputs) :
    (∃ ms, methods policy functions = .ok ms) ↔ ∀ r ∈ functions, Writable r := by
  rw [methods_eq_mapM, exists_mapM_ok_iff]
  constructor
  · intro hall r hr
    exact (exists_method_iff.1 (hall r hr)).2
  · intro hall r hr
    exact exists_method_iff.2 ⟨h r hr, hall r hr⟩

/-- If not all functions are writable, the first that is not decides the error. -/
theorem methods_eq_error_iff {functions : List Naming.Resolved} {e : GenerateError}
    (h : ∀ r ∈ functions, AllTyped r.entry.inputs) :
    methods policy functions = .error e ↔ ∃ before r after, functions = before ++ r :: after ∧
      (∀ q ∈ before, Writable q) ∧ method policy r = .error e := by
  rw [methods_eq_mapM, mapM_eq_error_iff]
  constructor
  · rintro ⟨before, r, after, rfl, hbefore, hr⟩
    exact ⟨before, r, after, rfl, fun q hq => (exists_method_iff.1 (hbefore q hq)).2, hr⟩
  · rintro ⟨before, r, after, rfl, hbefore, hr⟩
    refine ⟨before, r, after, rfl, fun q hq => ?_, hr⟩
    exact exists_method_iff.2 ⟨h q (List.mem_append_left _ hq), hbefore q hq⟩

/-- Methods that cannot be made fail by the first function that is not writable: by its outputs, or
by its name if all outputs have types. -/
theorem methods_fail {functions : List Naming.Resolved}
    (h : ∀ r ∈ functions, AllTyped r.entry.inputs) (hnot : ¬ ∀ r ∈ functions, Writable r) :
    ∃ before r after, functions = before ++ r :: after ∧ (∀ q ∈ before, Writable q) ∧
      (Blames r.entry.outputs (.function r.entry.title) (methods policy functions) ∨
        AllTyped r.entry.outputs ∧ ¬ Code.isWord r.accessor ∧
          methods policy functions = .error (.unwritable r.accessor)) := by
  obtain ⟨e, he⟩ := exists_error_of_not_ok (mt (@exists_methods_iff policy _ h).1 hnot)
  obtain ⟨before, r, after, hsplit, hbefore, hr⟩ := (methods_eq_error_iff h).1 he
  refine ⟨before, r, after, hsplit, hbefore, ?_⟩
  have hinputs : AllTyped r.entry.inputs := h r (by simp [hsplit])
  by_cases houtputs : AllTyped r.entry.outputs
  · right
    have hword : ¬ Code.isWord r.accessor := by
      intro hword
      obtain ⟨m, hm⟩ := exists_method_iff.2 ⟨hinputs, houtputs, hword⟩
      rw [hm] at hr
      cases hr
    rw [method_eq_unwritable hinputs houtputs hword] at hr
    obtain rfl := Except.error.inj hr
    exact ⟨houtputs, hword, he⟩
  · left
    obtain ⟨p, hp, error, hblame, hfault⟩ := method_blames hinputs houtputs
    rw [hfault] at hr
    obtain rfl := Except.error.inj hr
    exact ⟨p, hp, error, hblame, he⟩

/-! ## Events -/

/-- What the binding of an event is made of. -/
structure EventOf (policy : TypePolicy) (r : Naming.Resolved) (e : EventBinding) : Prop where
  identifier : e.identifier = r.identifier
  accessor : e.accessor = r.accessor
  signature : e.signature = r.signature
  topic : e.topic = Hash.keccak256 (Text.Utf8.encode r.signature)
  anonymous : e.anonymous = r.entry.anonymous
  namedFields : e.namedFields = !r.entry.inputs.all fun p => p.name = ""
  fields : Bindings.fields policy (.event r.entry.title)
    (Naming.inputNames [] (r.entry.inputs.map (·.name))) r.entry.inputs r.types = .ok e.fields

/-- What a binding that is made for an event holds. -/
theorem event_eq_ok {r : Naming.Resolved} {e : EventBinding} (h : event policy r = .ok e) :
    EventOf policy r e := by
  obtain ⟨fs, hfs, h⟩ := bind_eq_ok_iff.1 h
  obtain rfl := Except.ok.inj h
  exact ⟨rfl, rfl, rfl, rfl, rfl, rfl, hfs⟩

/-- Fields are made for parameters that have types. -/
theorem exists_fields (names : List String) (h : AllTyped parameters) (types : List ParamType) :
    ∃ fs, fields policy location names parameters types = .ok fs := by
  induction parameters generalizing names types with
  | nil => exact ⟨[], by cases names <;> rfl⟩
  | cons p rest ih =>
    obtain ⟨hp, hrest⟩ := List.forall_mem_cons.1 h
    cases names with
    | nil => exact ⟨[], rfl⟩
    | cons name names =>
      cases types with
      | nil => exact ⟨[], rfl⟩
      | cons type types =>
        obtain ⟨descriptor, hdescriptor⟩ := exists_describe_iff.2 hp
        obtain ⟨fs, hfs⟩ := ih names hrest types
        refine ⟨⟨name, descriptor, p.indexed, type.isValueType⟩ :: fs, ?_⟩
        rw [fields, hdescriptor, hfs]
        rfl

/-- A binding is made for an event whose inputs have types. -/
theorem exists_event {r : Naming.Resolved} (h : AllTyped r.entry.inputs) :
    ∃ e, event policy r = .ok e := by
  obtain ⟨fs, hfs⟩ := exists_fields (Naming.inputNames [] (r.entry.inputs.map (·.name))) h r.types
  exact ⟨_, bind_eq_ok_iff.2 ⟨fs, hfs, rfl⟩⟩

/-- Bindings of events are made one by one. -/
theorem events_eq_mapM (named : List Naming.Resolved) :
    events policy named = named.mapM (event policy) := by
  induction named with
  | nil => rfl
  | cons r rest ih =>
    rw [List.mapM_cons, events, ih]
    rfl

/-- Events whose inputs have types are always emitted. -/
theorem exists_events {named : List Naming.Resolved}
    (h : ∀ r ∈ named, AllTyped r.entry.inputs) : ∃ es, events policy named = .ok es := by
  rw [events_eq_mapM, exists_mapM_ok_iff]
  exact fun r hr => exists_event (h r hr)

end AbiBindings.Bindings
