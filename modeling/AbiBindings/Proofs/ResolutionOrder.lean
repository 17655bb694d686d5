import AbiBindings.Proofs.Resolution

/-!
# Resolution does not depend on the order of entries

The names of an entry depend on the other entries only through the number of those that share its
name. Hence resolution of a permuted list succeeds or fails alike and gives every entry what it got
before, and entries with other names may be added without a change for those that are there
(`resolve_order_independent`).
-/

set_option autoImplicit false

namespace AbiBindings

/-- Whether two errors are of one kind, whatever they name. -/
def GenerateError.SameKind (error other : GenerateError) : Prop :=
  error.ctorIdx = other.ctorIdx

end AbiBindings

namespace AbiBindings.Naming

open Abi

variable {aliases : Aliases} {entries others added wider : List Entry}

/-! ## Names by the number of overloads -/

/-- Where the name of an entry is overloaded alike, the entry gets the same names. -/
theorem resolveOne_congr {e : Entry} {types : List ParamType}
    (h : isOverloaded entries e.title = isOverloaded others e.title) :
    resolveOne aliases entries e types = resolveOne aliases others e types := by
  have hsuffix : suffix? entries e types = suffix? others e types := by
    rw [suffix?, suffix?, h]
  rw [resolveOne, resolveOne, hsuffix]

/-- Whether a name is overloaded does not depend on the order of the entries. -/
theorem isOverloaded_perm (h : entries.Perm others) (name : String) :
    isOverloaded entries name = isOverloaded others name := by
  rw [isOverloaded, isOverloaded, h.countP_eq]

/-- Entries with other names do not count. -/
theorem isOverloaded_append {name : String} (h : ∀ a ∈ added, a.title ≠ name) :
    isOverloaded (entries ++ added) name = isOverloaded entries name := by
  have hnone : added.countP (fun e => e.title = name) = 0 := by
    rw [List.countP_eq_zero]
    intro a ha
    simpa using h a ha
  rw [isOverloaded, isOverloaded, List.countP_append, hnone, Nat.add_zero]

/-- The names of an entry as a member of a list. -/
def namesIn (aliases : Aliases) (entries : List Entry) (e : Entry) : Resolved :=
  resolveOne aliases entries e e.types

/-- The names of an entry do not depend on the order of the entries. -/
theorem namesIn_perm (h : entries.Perm others) (e : Entry) :
    namesIn aliases entries e = namesIn aliases others e :=
  resolveOne_congr (isOverloaded_perm h e.title)

/-- Added entries do not change the names of entries with names other than theirs. -/
theorem namesIn_wider (hwider : wider.Perm (entries ++ added))
    (h : ∀ a ∈ added, ∀ e ∈ entries, a.title ≠ e.title) {e : Entry} (he : e ∈ entries) :
    namesIn aliases wider e = namesIn aliases entries e := by
  rw [namesIn_perm hwider]
  exact resolveOne_congr (isOverloaded_append fun a ha => h a ha e he)

/-! ## Permuted lists -/

/-- Whether inputs have types does not depend on the order of the entries. -/
theorem inputsTyped_perm (h : entries.Perm others) : InputsTyped entries ↔ InputsTyped others := by
  constructor
  · intro htyped e he
    exact htyped e (h.mem_iff.2 he)
  · intro htyped e he
    exact htyped e (h.mem_iff.1 he)

/-- Reordered entries have the names that they have in the order before. -/
theorem candidates_eq_map (h : entries.Perm others) :
    candidates aliases others = others.map (namesIn aliases entries) :=
  List.map_congr_left fun e _ => (namesIn_perm h e).symm

/-- Whether entries are told apart does not depend on their order. -/
theorem distinct_perm (h : entries.Perm others) :
    Distinct (candidates aliases entries) ↔ Distinct (candidates aliases others) := by
  have hperm : (candidates aliases entries).Perm (candidates aliases others) := by
    rw [candidates_eq_map h]
    exact h.map _
  rw [Distinct, Distinct, (hperm.map _).nodup_iff, (hperm.map _).nodup_iff]

/-- Resolution of a permuted list succeeds with the same names or fails by an error of the same
kind. -/
theorem resolve_perm (h : entries.Perm others) :
    (resolve aliases entries = .ok (entries.map (namesIn aliases entries)) ∧
        resolve aliases others = .ok (others.map (namesIn aliases entries))) ∨
      ∃ error other, resolve aliases entries = .error error ∧
        resolve aliases others = .error other ∧ error.SameKind other := by
  by_cases htyped : InputsTyped entries
  · have htyped' := (inputsTyped_perm h).1 htyped
    by_cases hdistinct : Distinct (candidates aliases entries)
    · refine Or.inl ⟨resolve_eq_candidates htyped hdistinct, ?_⟩
      rw [← candidates_eq_map h]
      exact resolve_eq_candidates htyped' ((distinct_perm h).1 hdistinct)
    · obtain ⟨_, _, _, herror⟩ := resolve_eq_collision htyped hdistinct
      obtain ⟨_, _, _, herror'⟩ :=
        resolve_eq_collision htyped' (mt (distinct_perm h).2 hdistinct)
      exact Or.inr ⟨_, _, herror, herror', rfl⟩
  · obtain ⟨_, -, _, -, _, -, herror⟩ := @resolve_eq_typeError aliases _ htyped
    obtain ⟨_, -, _, -, _, -, herror'⟩ :=
      @resolve_eq_typeError aliases _ (mt (inputsTyped_perm h).2 htyped)
    exact Or.inr ⟨_, _, herror, herror', rfl⟩

/-- Resolution is independent of order and local. A permuted list succeeds with the same names for
every entry, in its own order, or fails by an error of the same kind; and if entries are added whose
names no entry has, and resolution succeeds with them, the names of the entries remain. -/
theorem resolve_order_independent (h : entries.Perm others) :
    ∃ names : Entry → Resolved, (∀ e, (names e).entry = e) ∧
      ((resolve aliases entries = .ok (entries.map names) ∧
          resolve aliases others = .ok (others.map names)) ∨
        ∃ error other, resolve aliases entries = .error error ∧
          resolve aliases others = .error other ∧ error.SameKind other) ∧
      ∀ added wider resolved, wider.Perm (entries ++ added) →
        (∀ a ∈ added, ∀ e ∈ entries, a.title ≠ e.title) → resolve aliases wider = .ok resolved →
        ∃ widerNames : Entry → Resolved, resolved = wider.map widerNames ∧
          ∀ e ∈ entries, widerNames e = names e := by
  refine ⟨namesIn aliases entries, fun e => entry_resolveOne _ _ _ _, resolve_perm h, ?_⟩
  intro added wider resolved hwider hother hresolved
  obtain ⟨-, -, rfl⟩ := resolve_eq_ok_iff.1 hresolved
  exact ⟨namesIn aliases wider, rfl, fun e he => namesIn_wider hwider hother he⟩

/-- Two functions of one name with another between them. -/
def lookupFunctions : List Entry :=
  [⟨.function, some "lookup", [⟨"key", "uint256", [], false⟩], [], .view, false⟩,
    ⟨.function, some "owner", [], [], .view, false⟩,
    ⟨.function, some "lookup", [⟨"flag", "bool", [], false⟩], [], .view, false⟩]

/-- A function of another name. -/
def lookupAll : Entry :=
  ⟨.function, some "lookupAll", [], [], .view, false⟩

/-- The functions are named alike in the opposite order and with another function before them. -/
theorem resolve_order_independent_lookup :
    lookupFunctions.Perm lookupFunctions.reverse ∧ ∃ names widerNames : Entry → Resolved,
      resolve [] lookupFunctions = .ok (lookupFunctions.map names) ∧
      resolve [] lookupFunctions.reverse = .ok (lookupFunctions.reverse.map names) ∧
      resolve [] (lookupAll :: lookupFunctions) =
        .ok ((lookupAll :: lookupFunctions).map widerNames) ∧
      ∀ e ∈ lookupFunctions, widerNames e = names e := by
  have hperm : lookupFunctions.Perm lookupFunctions.reverse := (List.reverse_perm _).symm
  obtain ⟨names, -, houtcome, hlocal⟩ := @resolve_order_independent [] _ _ hperm
  have hok : resolve [] lookupFunctions = .ok (candidates [] lookupFunctions) :=
    resolve_eq_ok_iff.2 ⟨by decide +kernel, by decide +kernel, rfl⟩
  have hwider : resolve [] (lookupAll :: lookupFunctions) =
      .ok (candidates [] (lookupAll :: lookupFunctions)) :=
    resolve_eq_ok_iff.2 ⟨by decide +kernel, by decide +kernel, rfl⟩
  have hother : ∀ a ∈ [lookupAll], ∀ e ∈ lookupFunctions, a.title ≠ e.title := by decide +kernel
  obtain ⟨widerNames, hnames, hsame⟩ := hlocal [lookupAll] _ _
    (List.perm_append_singleton lookupAll lookupFunctions).symm hother hwider
  obtain ⟨hforward, hbackward⟩ | ⟨error, -, herror, -⟩ := houtcome
  · rw [hnames] at hwider
    exact ⟨hperm, names, widerNames, hforward, hbackward, hwider, hsame⟩
  · rw [hok] at herror
    cases herror

end AbiBindings.Naming
