import AbiBindings.Naming.Resolution
import AbiBindings.Proofs.Traversal

/-!
# Resolution decides names by the whole list

The names that entries get are settled by `candidates`, before anything is checked. Resolution
succeeds with the candidates if the inputs of all entries have types and the candidates share
neither an accessor nor an identifier; otherwise it fails, by a type if there is one to blame and
by a collision if not.
-/

set_option autoImplicit false

namespace AbiBindings.Abi

open Traversal

/-- Whether every parameter of a list has a type. -/
def AllTyped (parameters : List Parameter) : Prop :=
  ∀ p ∈ parameters, ∃ type, p.paramType = .ok type

/-- The types of the inputs of an entry, none if there is an input without a type. -/
def Entry.types (e : Entry) : List ParamType :=
  match e.inputTypes with
  | .ok types => types
  | .error _ => []

/-- The types of parameters are read one by one. -/
theorem typesOf_eq_mapM (parameters : List Parameter) :
    typesOf parameters = parameters.mapM Parameter.paramType := by
  induction parameters with
  | nil => rfl
  | cons p rest ih =>
    rw [List.mapM_cons, typesOf, ih]
    rfl

/-- The types of a list of parameters are found if every parameter has one. -/
theorem exists_typesOf_iff {parameters : List Parameter} :
    (∃ types, typesOf parameters = .ok types) ↔ AllTyped parameters := by
  rw [typesOf_eq_mapM, exists_mapM_ok_iff, AllTyped]

/-- Whether parameters have types is decided by reading them. -/
instance (parameters : List Parameter) : Decidable (AllTyped parameters) :=
  decidable_of_iff (typesOf parameters).isOk (isOk_iff.trans exists_typesOf_iff)

/-- If the inputs of an entry have types, these are the types of the entry. -/
theorem Entry.inputTypes_eq_types {e : Entry} (h : AllTyped e.inputs) :
    e.inputTypes = .ok e.types := by
  obtain ⟨types, htypes⟩ := exists_typesOf_iff.2 h
  have htypes' : e.inputTypes = .ok types := htypes
  rw [Entry.types, htypes']

/-- If no types are found for the inputs of an entry, an input without a type is to blame. -/
theorem Entry.exists_input_of_inputTypes_eq_error {e : Entry} {error : TypeError}
    (h : e.inputTypes = .error error) : ∃ p ∈ e.inputs, p.paramType = .error error := by
  rw [Entry.inputTypes, typesOf_eq_mapM, mapM_eq_error_iff] at h
  obtain ⟨before, p, after, hinputs, -, hp⟩ := h
  exact ⟨p, by simp [hinputs], hp⟩

end AbiBindings.Abi

namespace AbiBindings.Naming

open Abi Traversal

/-- Whether the inputs of every entry have types. -/
def InputsTyped (entries : List Entry) : Prop :=
  ∀ e ∈ entries, AllTyped e.inputs

/-- Whether the inputs of entries have types is decided by reading them. -/
instance (entries : List Entry) : Decidable (InputsTyped entries) :=
  inferInstanceAs (Decidable (∀ e ∈ entries, AllTyped e.inputs))

/-- The entries with the names that resolution means to give them. -/
def candidates (aliases : Aliases) (entries : List Entry) : List Resolved :=
  entries.map fun e => resolveOne aliases entries e e.types

/-- Whether names tell entries apart: their accessors and their identifiers are distinct. -/
def Distinct (resolved : List Resolved) : Prop :=
  (resolved.map Resolved.accessor).Nodup ∧ (resolved.map Resolved.identifier).Nodup

/-- Whether entries are told apart is decided by their names. -/
instance (resolved : List Resolved) : Decidable (Distinct resolved) :=
  inferInstanceAs (Decidable (_ ∧ _))

/-! ## The types of the inputs -/

/-- An entry with the types of its inputs. -/
def withTypes (e : Entry) : Except GenerateError (Entry × List ParamType) :=
  match e.inputTypes with
  | .ok types => .ok (e, types)
  | .error error => .error (.ofType (locationOf e) error)

/-- The types of entries are read one by one. -/
theorem inputTypes_eq_mapM (entries : List Entry) :
    inputTypes entries = entries.mapM withTypes := by
  induction entries with
  | nil => rfl
  | cons e rest ih =>
    rw [List.mapM_cons, inputTypes, withTypes, ih]
    cases e.inputTypes with
    | error error => rfl
    | ok types => cases rest.mapM withTypes <;> rfl

/-- Inputs that have types are read as those. -/
theorem inputTypes_eq_ok {entries : List Entry} (h : InputsTyped entries) :
    inputTypes entries = .ok (entries.map fun e => (e, e.types)) := by
  rw [inputTypes_eq_mapM]
  apply mapM_eq_ok_map
  intro e he
  rw [withTypes, Entry.inputTypes_eq_types (h e he)]

/-- If no types are found for the inputs of all entries, an input without a type is to blame, and
its entry is named. -/
theorem inputTypes_eq_error {entries : List Entry} (h : ¬ InputsTyped entries) :
    ∃ e ∈ entries, ∃ p ∈ e.inputs, ∃ error, p.paramType = .error error ∧
      inputTypes entries = .error (.ofType (locationOf e) error) := by
  have hnot : ¬ ∃ typed, inputTypes entries = .ok typed := by
    rw [inputTypes_eq_mapM, exists_mapM_ok_iff]
    intro hall
    apply h
    intro e he
    obtain ⟨typed, htyped⟩ := hall e he
    unfold withTypes at htyped
    split at htyped
    · exact exists_typesOf_iff.1 ⟨_, ‹_›⟩
    · cases htyped
  obtain ⟨fault, hfault⟩ := exists_error_of_not_ok hnot
  have hmapM := hfault
  rw [inputTypes_eq_mapM, mapM_eq_error_iff] at hmapM
  obtain ⟨before, e, after, rfl, -, he⟩ := hmapM
  unfold withTypes at he
  split at he
  · cases he
  · rename_i error herror
    obtain rfl := Except.error.inj he
    obtain ⟨p, hp, hblame⟩ := Entry.exists_input_of_inputTypes_eq_error herror
    exact ⟨e, by simp, p, hp, error, hblame, hfault⟩

/-! ## Collisions -/

/-- No key is repeated exactly if the keys are distinct from each other and from those before. -/
theorem repetition?_eq_none_iff {key : Resolved → String} {before resolved : List Resolved} :
    repetition? key before resolved = none ↔
      (resolved.map key).Nodup ∧ ∀ r ∈ resolved, ∀ earlier ∈ before, key earlier ≠ key r := by
  induction resolved generalizing before with
  | nil => simp [repetition?]
  | cons r rest ih =>
    rw [repetition?, List.map_cons, List.nodup_cons, List.forall_mem_cons]
    split
    · rename_i earlier hfind
      have hmem := List.mem_of_find?_eq_some hfind
      have hkey : key earlier = key r := by simpa using List.find?_some hfind
      simp only [reduceCtorEq, false_iff]
      rintro ⟨-, hbefore, -⟩
      exact hbefore earlier hmem hkey
    · rename_i hfind
      have hbefore : ∀ earlier ∈ before, key earlier ≠ key r := by simpa using hfind
      rw [ih]
      constructor
      · rintro ⟨hnodup, hrest⟩
        refine ⟨⟨?_, hnodup⟩, hbefore, fun s hs earlier hearlier => ?_⟩
        · rintro hmem
          obtain ⟨s, hs, hkey⟩ := List.mem_map.1 hmem
          exact hrest s hs r (by simp) hkey.symm
        · exact hrest s hs earlier (by simp [hearlier])
      · rintro ⟨⟨hr, hnodup⟩, -, hrest⟩
        refine ⟨hnodup, fun s hs earlier hearlier => ?_⟩
        rcases List.mem_append.1 hearlier with hmem | hmem
        · exact hrest s hs earlier hmem
        · obtain rfl := List.mem_singleton.1 hmem
          intro hkey
          exact hr (hkey ▸ List.mem_map_of_mem hs)

/-- The check of a key succeeds if the keys are distinct. -/
theorem checkUnique_eq_ok {key : Resolved → String} {resolved : List Resolved}
    (h : (resolved.map key).Nodup) : checkUnique key resolved = .ok () := by
  have hnone : repetition? key [] resolved = none := repetition?_eq_none_iff.2 ⟨h, by simp⟩
  rw [checkUnique, hnone]

/-- The check of a key that is repeated names two entries. -/
theorem checkUnique_eq_error {key : Resolved → String} {resolved : List Resolved}
    (h : ¬ (resolved.map key).Nodup) :
    ∃ identifier first second,
      checkUnique key resolved = .error (.collision identifier first second) := by
  unfold checkUnique
  split
  · exact ⟨_, _, _, rfl⟩
  · exact absurd (repetition?_eq_none_iff.1 ‹_›).1 h

/-! ## Resolution as a whole -/

/-- Where inputs have types, resolution is the check of the candidates for collisions. -/
theorem resolve_of_inputsTyped {aliases : Aliases} {entries : List Entry}
    (h : InputsTyped entries) :
    resolve aliases entries = (do
      checkUnique Resolved.accessor (candidates aliases entries)
      checkUnique Resolved.identifier (candidates aliases entries)
      .ok (candidates aliases entries)) := by
  rw [resolve, inputTypes_eq_ok h, candidates]
  simp only [bind, Except.bind, List.map_map]
  rfl

/-- Without a type for every input, resolution blames an input that has none. -/
theorem resolve_eq_typeError {aliases : Aliases} {entries : List Entry}
    (h : ¬ InputsTyped entries) :
    ∃ e ∈ entries, ∃ p ∈ e.inputs, ∃ error, p.paramType = .error error ∧
      resolve aliases entries = .error (.ofType (locationOf e) error) := by
  obtain ⟨e, he, p, hp, error, hblame, hfault⟩ := inputTypes_eq_error h
  refine ⟨e, he, p, hp, error, hblame, ?_⟩
  rw [resolve, hfault]
  rfl

/-- With types for all inputs but names that clash, resolution reports a collision. -/
theorem resolve_eq_collision {aliases : Aliases} {entries : List Entry}
    (h : InputsTyped entries) (hdistinct : ¬ Distinct (candidates aliases entries)) :
    ∃ identifier first second,
      resolve aliases entries = .error (.collision identifier first second) := by
  rw [resolve_of_inputsTyped h]
  by_cases haccessor : ((candidates aliases entries).map Resolved.accessor).Nodup
  · have hidentifier : ¬ ((candidates aliases entries).map Resolved.identifier).Nodup :=
      fun hidentifier => hdistinct ⟨haccessor, hidentifier⟩
    obtain ⟨identifier, first, second, hcollision⟩ := checkUnique_eq_error hidentifier
    refine ⟨identifier, first, second, ?_⟩
    rw [checkUnique_eq_ok haccessor, hcollision]
    rfl
  · obtain ⟨identifier, first, second, hcollision⟩ := checkUnique_eq_error haccessor
    refine ⟨identifier, first, second, ?_⟩
    rw [hcollision]
    rfl

/-- With types for all inputs and names that do not clash, resolution gives those names. -/
theorem resolve_eq_candidates {aliases : Aliases} {entries : List Entry}
    (h : InputsTyped entries) (hdistinct : Distinct (candidates aliases entries)) :
    resolve aliases entries = .ok (candidates aliases entries) := by
  rw [resolve_of_inputsTyped h, checkUnique_eq_ok hdistinct.1, checkUnique_eq_ok hdistinct.2]
  rfl

/-- Resolution succeeds only with the candidates, and only if they are in order. -/
theorem resolve_eq_ok_iff {aliases : Aliases} {entries : List Entry} {resolved : List Resolved} :
    resolve aliases entries = .ok resolved ↔
      InputsTyped entries ∧ Distinct (candidates aliases entries) ∧
        resolved = candidates aliases entries := by
  constructor
  · intro h
    by_cases htyped : InputsTyped entries
    · by_cases hdistinct : Distinct (candidates aliases entries)
      · rw [resolve_eq_candidates htyped hdistinct] at h
        exact ⟨htyped, hdistinct, (Except.ok.inj h).symm⟩
      · obtain ⟨identifier, first, second, hcollision⟩ := resolve_eq_collision htyped hdistinct
        rw [hcollision] at h
        cases h
    · obtain ⟨e, -, p, -, error, -, hfault⟩ := @resolve_eq_typeError aliases _ htyped
      rw [hfault] at h
      cases h
  · rintro ⟨htyped, hdistinct, rfl⟩
    exact resolve_eq_candidates htyped hdistinct

/-- Every candidate stands for an entry of the list, with its types and its signature. -/
theorem exists_entry_of_mem_candidates {aliases : Aliases} {entries : List Entry} {r : Resolved}
    (h : r ∈ candidates aliases entries) :
    ∃ e ∈ entries, r = resolveOne aliases entries e e.types := by
  obtain ⟨e, he, rfl⟩ := List.mem_map.1 h
  exact ⟨e, he, rfl⟩

/-- An entry is resolved to names for itself. -/
@[simp]
theorem entry_resolveOne (aliases : Aliases) (entries : List Entry) (e : Entry)
    (types : List ParamType) : (resolveOne aliases entries e types).entry = e := by
  unfold resolveOne
  dsimp only
  split <;> rfl

/-- Signatures are put together as those of entries are. -/
theorem signatureText_eq (name : String) (types : List ParamType) :
    signatureText name types = signatureOf name types := by
  rw [signatureText, signatureOf, ParamType.canonicalTuple]
  simp only [String.append_assoc]

/-- The signature that is assembled for an entry is that of its title and types. -/
@[simp]
theorem signature_resolveOne (aliases : Aliases) (entries : List Entry) (e : Entry)
    (types : List ParamType) :
    (resolveOne aliases entries e types).signature = signatureOf e.title types := by
  rw [← signatureText_eq]
  unfold resolveOne
  dsimp only
  split <;> rfl

/-- An entry is resolved with its types. -/
@[simp]
theorem types_resolveOne (aliases : Aliases) (entries : List Entry) (e : Entry)
    (types : List ParamType) : (resolveOne aliases entries e types).types = types := by
  unfold resolveOne
  dsimp only
  split <;> rfl

/-- The entry of a candidate is one of the list. -/
theorem entry_mem_of_mem_candidates {aliases : Aliases} {entries : List Entry} {r : Resolved}
    (h : r ∈ candidates aliases entries) : r.entry ∈ entries := by
  obtain ⟨e, he, rfl⟩ := exists_entry_of_mem_candidates h
  rwa [entry_resolveOne]

/-- The inputs of candidates have types if those of the entries have. -/
theorem allTyped_of_mem_candidates {aliases : Aliases} {entries : List Entry}
    (h : InputsTyped entries) : ∀ r ∈ candidates aliases entries, AllTyped r.entry.inputs :=
  fun _ hr => h _ (entry_mem_of_mem_candidates hr)

/-- What is found under a key stands there. -/
theorem mem_of_lookup_eq_some {α β : Type} [BEq α] [LawfulBEq α] {l : List (α × β)} {key : α}
    {value : β} (h : l.lookup key = some value) : (key, value) ∈ l := by
  obtain ⟨before, after, hsplit, -⟩ := List.lookup_eq_some_iff.1 h
  rw [hsplit]
  exact List.mem_append_right before List.mem_cons_self

end AbiBindings.Naming
