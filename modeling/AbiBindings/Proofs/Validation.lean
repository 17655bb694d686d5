import AbiBindings.Abi.Loader
import AbiBindings.Proofs.Traversal

/-!
# Loading is exact

The rules for declarations are stated here apart from the check that tests them:
`Declaration.Breaks` says which declarations break a rule, given those before, and `rules` in which
order rules count. The check carries one flag from declaration to declaration, whether it has met a
constructor, and stops at the first fault. It accepts exactly the lists that break no rule, and
otherwise tells the least index and the first rule (`loadDeclarations_exact`).
-/

set_option autoImplicit false

namespace AbiBindings.Abi

open Traversal

/-! ## The rules -/

/-- Whether a declaration breaks a rule, given the declarations before it. -/
def Declaration.Breaks (before : List Declaration) (d : Declaration) : EntryFault → Prop
  | .missingName => d.kind ∈ [.function, .event, .error] ∧ (d.name = none ∨ d.name = some "")
  | .repeatedConstructor => d.kind = .constructor ∧ ∃ earlier ∈ before, earlier.kind = .constructor
  | .strayOutputs => d.kind ≠ .function ∧ d.outputs ≠ []
  | .tooManyIndexed =>
    d.kind = .event ∧ (if d.anonymous then 4 else 3) < (d.inputs.filter (·.indexed)).length
  | .other _ => False

/-- Whether a declaration breaks a rule is decided rule by rule. -/
instance (before : List Declaration) (d : Declaration) :
    (rule : EntryFault) → Decidable (d.Breaks before rule)
  | .missingName => inferInstanceAs (Decidable (_ ∧ (_ ∨ _)))
  | .repeatedConstructor => inferInstanceAs (Decidable (_ ∧ ∃ _ ∈ _, _))
  | .strayOutputs => inferInstanceAs (Decidable (_ ∧ ¬ _))
  | .tooManyIndexed => inferInstanceAs (Decidable (_ ∧ _ < _))
  | .other _ => inferInstanceAs (Decidable False)

/-- The rules in the order in which they count. -/
def rules : List EntryFault :=
  [.missingName, .repeatedConstructor, .strayOutputs, .tooManyIndexed]

/-- Whether a rule is the first that a declaration breaks. -/
def Declaration.BreaksFirst (before : List Declaration) (d : Declaration) (rule : EntryFault) :
    Prop :=
  rules.find? (fun r => d.Breaks before r) = some rule

/-- Whether the declaration at an index breaks a rule, where others stand before the list. -/
def BrokenAt (before declarations : List Declaration) (index : Nat) (rule : EntryFault) : Prop :=
  ∃ d, declarations[index]? = some d ∧ d.Breaks (before ++ declarations.take index) rule

/-- Whether an index is the least at which a rule is broken, and the rule the first broken there. -/
def FirstBroken (before declarations : List Declaration) (index : Nat) (rule : EntryFault) : Prop :=
  (∃ d, declarations[index]? = some d ∧
    d.BreaksFirst (before ++ declarations.take index) rule) ∧
  ∀ earlier < index, ∀ r, ¬ BrokenAt before declarations earlier r

/-- What an entry keeps of its declaration. -/
structure EntryOf (d : Declaration) (e : Entry) : Prop where
  kind : e.kind = d.kind
  name : e.name = if d.kind ∈ [.constructor, .fallback, .receive] then none else d.name
  inputs : e.inputs =
    if d.kind = .event then d.inputs else d.inputs.map fun p => { p with indexed := false }
  outputs : e.outputs = d.outputs
  declaredMutability : ∀ mutability, d.mutability = some mutability → e.mutability = mutability
  olderMutability : d.mutability = none → e.mutability =
    if d.payable then .payable else if d.constant then .view else .nonpayable
  anonymous : e.anonymous = true ↔ d.kind = .event ∧ d.anonymous = true

/-! ## One declaration -/

section Declaration

variable {before : List Declaration} {d : Declaration}

/-- Only the rules that count can be broken. -/
theorem Declaration.Breaks.mem_rules {rule : EntryFault} (h : d.Breaks before rule) :
    rule ∈ rules := by
  cases rule with
  | other text => exact h.elim
  | _ => decide

/-- A declaration is given no name if the name is missing or empty. -/
theorem givenName_isNone_iff :
    d.givenName.isNone ↔ d.name = none ∨ d.name = some "" := by
  cases hname : d.name with
  | none => simp [Declaration.givenName, hname]
  | some name => simp [Declaration.givenName, hname, Option.filter]

/-- Functions, events and errors need names. -/
theorem needsName_iff {kind : EntryKind} :
    kind.needsName ↔ kind ∈ [.function, .event, .error] := by
  cases kind <;> decide

/-- The check of a declaration finds the first rule that is broken; of the declarations before it
needs to know only whether one is a constructor. -/
theorem fault?_eq_find? :
    d.fault? (before.any fun earlier => earlier.kind = .constructor) =
      rules.find? fun rule => d.Breaks before rule := by
  have hname : (d.kind.needsName && d.givenName.isNone) =
      decide (d.Breaks before .missingName) := by
    rw [Bool.eq_iff_iff, Bool.and_eq_true, decide_eq_true_eq, needsName_iff, givenName_isNone_iff]
    rfl
  have hconstructor : (d.kind = .constructor ∧
      before.any fun earlier => earlier.kind = .constructor) ↔
        d.Breaks before .repeatedConstructor := by
    simp [Declaration.Breaks]
  have houtputs : (d.kind ≠ .function ∧ !d.outputs.isEmpty) ↔ d.Breaks before .strayOutputs := by
    simp [Declaration.Breaks]
  have hindexed : (d.kind = .event ∧ d.indexedCount > d.indexLimit) ↔
      d.Breaks before .tooManyIndexed := by
    simp [Declaration.Breaks, Declaration.indexedCount, Declaration.indexLimit,
      List.countP_eq_length_filter]
  unfold Declaration.fault? rules
  simp only [hname, hconstructor, houtputs, hindexed, List.find?_cons, List.find?_nil,
    decide_eq_true_eq]
  by_cases hname : d.Breaks before .missingName
  · simp [hname]
  · by_cases hconstructor : d.Breaks before .repeatedConstructor
    · simp [hname, hconstructor]
    · by_cases houtputs : d.Breaks before .strayOutputs
      · simp [hname, hconstructor, houtputs]
      · by_cases hindexed : d.Breaks before .tooManyIndexed
        · simp [hname, hconstructor, houtputs, hindexed]
        · simp [hname, hconstructor, houtputs, hindexed]

/-- No broken rule is found exactly if none is broken. -/
theorem find?_rules_eq_none_iff :
    (rules.find? fun rule => d.Breaks before rule) = none ↔ ∀ rule, ¬ d.Breaks before rule := by
  rw [List.find?_eq_none]
  constructor
  · intro h rule hbreaks
    exact h rule hbreaks.mem_rules (decide_eq_true hbreaks)
  · intro h rule _ hbreaks
    exact h rule (of_decide_eq_true hbreaks)

/-- The rule that is broken first is broken. -/
theorem Declaration.BreaksFirst.breaks {rule : EntryFault} (h : d.BreaksFirst before rule) :
    d.Breaks before rule := by
  have hfind : (rules.find? fun r => d.Breaks before r) = some rule := h
  simpa using List.find?_some hfind

/-- A declaration whose name is in order becomes an entry that keeps what its kind has. -/
theorem entryOf_entry (h : ¬ d.Breaks before .missingName) : EntryOf d d.entry where
  kind := rfl
  name := by
    by_cases hneeds : d.kind.needsName
    · have hkind := needsName_iff.1 hneeds
      have hunnamed : d.kind ∉ [.constructor, .fallback, .receive] := by
        intro hmem
        revert hkind hmem
        cases d.kind <;> decide
      have hsome : ¬ (d.name = none ∨ d.name = some "") := fun hname => h ⟨hkind, hname⟩
      have hgiven : d.givenName = d.name := by
        cases hname : d.name with
        | none => exact absurd (Or.inl hname) hsome
        | some name =>
          have hne : name ≠ "" := by
            rintro rfl
            exact hsome (Or.inr hname)
          simp [Declaration.givenName, hname, hne]
      rw [if_neg hunnamed, ← hgiven]
      exact if_pos hneeds
    · have hunnamed : d.kind ∈ [.constructor, .fallback, .receive] := by
        revert hneeds
        cases d.kind <;> decide
      rw [if_pos hunnamed]
      exact if_neg hneeds
  inputs := rfl
  outputs := rfl
  declaredMutability := by
    intro mutability hmutability
    simp [Declaration.entry, Declaration.effectiveMutability, hmutability]
  olderMutability := by
    intro hmutability
    simp [Declaration.entry, Declaration.effectiveMutability, hmutability]
  anonymous := by simp [Declaration.entry]

end Declaration

/-! ## The check of a list -/

section Check

variable {before rest declarations : List Declaration} {d : Declaration} {index : Nat}
  {rule : EntryFault}

/-- At the first place stands the first declaration. -/
theorem brokenAt_zero : BrokenAt before (d :: rest) 0 rule ↔ d.Breaks before rule := by
  simp [BrokenAt]

/-- At a later place stands a declaration behind the first. -/
theorem brokenAt_succ :
    BrokenAt before (d :: rest) (index + 1) rule ↔ BrokenAt (before ++ [d]) rest index rule := by
  simp [BrokenAt]

/-- No rule is broken anywhere if none is at the first declaration and none behind it. -/
theorem not_brokenAt_cons : (∀ i r, ¬ BrokenAt before (d :: rest) i r) ↔
    (∀ r, ¬ d.Breaks before r) ∧ ∀ i r, ¬ BrokenAt (before ++ [d]) rest i r := by
  constructor
  · intro h
    exact ⟨fun r hr => h 0 r (brokenAt_zero.2 hr), fun i r hr => h (i + 1) r (brokenAt_succ.2 hr)⟩
  · rintro ⟨hd, hrest⟩ i r hr
    cases i with
    | zero => exact hd r (brokenAt_zero.1 hr)
    | succ i => exact hrest i r (brokenAt_succ.1 hr)

/-- The first broken rule of the first declaration. -/
theorem firstBroken_zero :
    FirstBroken before (d :: rest) 0 rule ↔ d.BreaksFirst before rule := by
  simp [FirstBroken]

/-- The first broken rule is at a later place if the first declaration breaks none. -/
theorem firstBroken_succ : FirstBroken before (d :: rest) (index + 1) rule ↔
    (∀ r, ¬ d.Breaks before r) ∧ FirstBroken (before ++ [d]) rest index rule := by
  constructor
  · rintro ⟨hfirst, hearlier⟩
    refine ⟨fun r hr => hearlier 0 (by omega) r (brokenAt_zero.2 hr), by simpa using hfirst, ?_⟩
    intro i hi r hr
    exact hearlier (i + 1) (by omega) r (brokenAt_succ.2 hr)
  · rintro ⟨hd, hfirst, hearlier⟩
    refine ⟨by simpa using hfirst, ?_⟩
    intro i hi r hr
    cases i with
    | zero => exact hd r (brokenAt_zero.1 hr)
    | succ i => exact hearlier i (by omega) r (brokenAt_succ.1 hr)

/-- One step of the check: it stops at a declaration that breaks a rule, and otherwise goes on with
that declaration behind it. -/
theorem checkFrom_cons :
    checkFrom index (before.any fun earlier => earlier.kind = .constructor) (d :: rest) =
      match rules.find? fun r => d.Breaks before r with
      | some fault => .error (index, fault)
      | none =>
        checkFrom (index + 1) ((before ++ [d]).any fun earlier => earlier.kind = .constructor)
          rest >>= fun entries => .ok (d.entry :: entries) := by
  rw [checkFrom, fault?_eq_find?, List.any_append, List.any_cons, List.any_nil, Bool.or_false]
  cases rules.find? fun r => d.Breaks before r with
  | some fault => rfl
  | none =>
    dsimp only
    cases checkFrom (index + 1) _ rest <;> rfl

/-- The check gives an entry for each declaration exactly if no rule is broken. -/
theorem checkFrom_eq_ok_iff {entries : List Entry} :
    checkFrom index (before.any fun earlier => earlier.kind = .constructor) declarations =
        .ok entries ↔
      (∀ i r, ¬ BrokenAt before declarations i r) ∧ entries = declarations.map Declaration.entry :=
    by
  -- on the declarations: each of them moves behind the check and counts as one before the next
  induction declarations generalizing before index entries with
  | nil => simp [checkFrom, BrokenAt, eq_comm]
  | cons d rest ih =>
    rw [checkFrom_cons, not_brokenAt_cons]
    cases hfault : rules.find? fun r => d.Breaks before r with
    | some fault =>
      have hbreaks : d.Breaks before fault := Declaration.BreaksFirst.breaks hfault
      simp only [reduceCtorEq, false_iff]
      rintro ⟨⟨hd, -⟩, -⟩
      exact hd fault hbreaks
    | none =>
      have hd := find?_rules_eq_none_iff.1 hfault
      constructor
      · intro h
        obtain ⟨others, hothers, h⟩ := bind_eq_ok_iff.1 h
        obtain ⟨hrest, rfl⟩ := ih.1 hothers
        obtain rfl := Except.ok.inj h
        exact ⟨⟨hd, hrest⟩, rfl⟩
      · rintro ⟨⟨-, hrest⟩, rfl⟩
        exact bind_eq_ok_iff.2 ⟨_, ih.2 ⟨hrest, rfl⟩, rfl⟩

/-- The check fails exactly with the least index at which a rule is broken, counted from where the
check starts, and with the first rule that is broken there. -/
theorem checkFrom_eq_error_iff {start : Nat} :
    checkFrom start (before.any fun earlier => earlier.kind = .constructor) declarations =
        .error (index, rule) ↔
      ∃ k, index = start + k ∧ FirstBroken before declarations k rule := by
  induction declarations generalizing before start with
  | nil => simp [checkFrom, FirstBroken]
  | cons d rest ih =>
    rw [checkFrom_cons]
    cases hfault : rules.find? fun r => d.Breaks before r with
    | some fault =>
      have hfirst : d.BreaksFirst before fault := hfault
      constructor
      · intro h
        obtain ⟨rfl, rfl⟩ := Prod.mk.inj (Except.error.inj h)
        exact ⟨0, rfl, firstBroken_zero.2 hfirst⟩
      · rintro ⟨k, rfl, hk⟩
        cases k with
        | zero =>
          have hrule := firstBroken_zero.1 hk
          rw [Declaration.BreaksFirst, hfault] at hrule
          obtain rfl := Option.some.inj hrule
          rfl
        | succ k => exact absurd hfirst.breaks ((firstBroken_succ.1 hk).1 fault)
    | none =>
      have hd := find?_rules_eq_none_iff.1 hfault
      constructor
      · intro h
        obtain hrest | ⟨entries, -, hnone⟩ := bind_eq_error_iff.1 h
        · obtain ⟨k, rfl, hfirst⟩ := ih.1 hrest
          exact ⟨k + 1, by omega, firstBroken_succ.2 ⟨hd, hfirst⟩⟩
        · cases hnone
      · rintro ⟨k, rfl, hk⟩
        cases k with
        | zero => exact absurd (firstBroken_zero.1 hk).breaks (hd rule)
        | succ k =>
          have hindex : start + (k + 1) = start + 1 + k := by omega
          have hrest := ih.2 ⟨k, hindex, (firstBroken_succ.1 hk).2⟩
          exact bind_eq_error_iff.2 (Or.inl hrest)

end Check

/-! ## Loading -/

section Loading

variable {allowEmpty : Bool} {declarations : List Declaration}

/-- An interface is made of declarations that break no rule, and has their entries. -/
theorem interface_eq_ok_iff {abi : Interface} : interface declarations = .ok abi ↔
    (∀ i r, ¬ BrokenAt [] declarations i r) ∧ abi.entries = declarations.map Declaration.entry := by
  have hcheck := @checkFrom_eq_ok_iff [] declarations 0 abi.entries
  rw [← hcheck, interface]
  rw [List.any_nil]
  cases checkFrom 0 false declarations with
  | error e => simp [Except.map]
  | ok entries =>
    constructor
    · intro h
      obtain rfl := Except.ok.inj h
      rfl
    · intro h
      obtain rfl := Except.ok.inj h
      rfl

/-- An interface fails for the rule that is broken first. -/
theorem interface_eq_error_iff {index : Nat} {rule : EntryFault} :
    interface declarations = .error (index, rule) ↔ FirstBroken [] declarations index rule := by
  have hcheck := @checkFrom_eq_error_iff [] declarations index rule 0
  simp only [Nat.zero_add, exists_eq_left'] at hcheck
  rw [← hcheck, interface, List.any_nil]
  cases checkFrom 0 false declarations <;> simp [Except.map]

/-- If a rule is broken, there is a least index at which one is. -/
theorem exists_firstBroken_iff : (∃ index rule, FirstBroken [] declarations index rule) ↔
    ∃ index rule, BrokenAt [] declarations index rule := by
  constructor
  · rintro ⟨index, rule, ⟨d, hd, hfirst⟩, -⟩
    exact ⟨index, rule, d, hd, hfirst.breaks⟩
  · rintro ⟨index, rule, hbroken⟩
    cases h : interface declarations with
    | ok abi => exact absurd hbroken ((interface_eq_ok_iff.1 h).1 index rule)
    | error fault => exact ⟨fault.1, fault.2, interface_eq_error_iff.1 h⟩

/-- Loading reports an empty list before it checks anything. -/
theorem loadDeclarations_cases (allowEmpty : Bool) (declarations : List Declaration) :
    (declarations = [] ∧ allowEmpty = false) ∧
        loadDeclarations allowEmpty declarations = .error .empty ∨
      ¬ (declarations = [] ∧ allowEmpty = false) ∧
        ((∃ abi, interface declarations = .ok abi ∧
            loadDeclarations allowEmpty declarations = .ok abi) ∨
          ∃ index rule, interface declarations = .error (index, rule) ∧
            loadDeclarations allowEmpty declarations = .error (.invalidEntry index rule)) := by
  have hempty : (declarations.isEmpty && !allowEmpty) = true ↔
      declarations = [] ∧ allowEmpty = false := by simp
  unfold loadDeclarations
  by_cases h : declarations = [] ∧ allowEmpty = false
  · exact Or.inl ⟨h, if_pos (hempty.2 h)⟩
  · rw [if_neg (mt hempty.1 h)]
    refine Or.inr ⟨h, ?_⟩
    cases interface declarations with
    | ok abi => exact Or.inl ⟨abi, rfl, rfl⟩
    | error fault => exact Or.inr ⟨fault.1, fault.2, rfl, rfl⟩

/-- Loading fails for an empty document if that is not allowed. -/
theorem loadDeclarations_eq_empty_iff :
    loadDeclarations allowEmpty declarations = .error .empty ↔
      declarations = [] ∧ allowEmpty = false := by
  obtain ⟨hempty, h⟩ | ⟨hallowed, ⟨abi, -, h⟩ | ⟨index, rule, -, h⟩⟩ :=
    loadDeclarations_cases allowEmpty declarations
  · exact iff_of_true h hempty
  · exact iff_of_false (by simp [h]) hallowed
  · exact iff_of_false (by simp [h]) hallowed

/-- Loading gives the interface of declarations, unless they are missing and may not. -/
theorem loadDeclarations_eq_ok_iff {abi : Interface} :
    loadDeclarations allowEmpty declarations = .ok abi ↔
      ¬ (declarations = [] ∧ allowEmpty = false) ∧ interface declarations = .ok abi := by
  obtain ⟨⟨rfl, rfl⟩, h⟩ | ⟨hallowed, ⟨other, hinterface, h⟩ | ⟨index, rule, hinterface, h⟩⟩ :=
    loadDeclarations_cases allowEmpty declarations
  · simp [h]
  · rw [and_iff_right hallowed]
    simp [h, hinterface]
  · simp [h, hinterface]

/-- Loading fails for the rule that is broken first. -/
theorem loadDeclarations_eq_invalidEntry_iff {index : Nat} {rule : EntryFault} :
    loadDeclarations allowEmpty declarations = .error (.invalidEntry index rule) ↔
      FirstBroken [] declarations index rule := by
  rw [← interface_eq_error_iff]
  obtain ⟨⟨rfl, rfl⟩, h⟩ | ⟨-, ⟨abi, hinterface, h⟩ | ⟨i, r, hinterface, h⟩⟩ :=
    loadDeclarations_cases allowEmpty declarations
  · simp [h, interface, checkFrom, Except.map]
  · simp [h, hinterface]
  · simp [h, hinterface]

/-- What is loaded has one entry for each declaration, in order. -/
theorem forall₂_entryOf {abi : Interface} (h : interface declarations = .ok abi) :
    List.Forall₂ EntryOf declarations abi.entries := by
  obtain ⟨hsound, hentries⟩ := interface_eq_ok_iff.1 h
  rw [hentries, List.forall₂_map_right_iff, List.forall₂_same]
  intro d hd
  obtain ⟨i, hi⟩ := List.getElem?_of_mem hd
  exact entryOf_entry fun hname => hsound i .missingName ⟨d, hi, hname⟩

/-- Loading is exact, and all or nothing. An empty list is refused unless it is allowed; any other
list is loaded if and only if no declaration breaks a rule. If one does, the error names the least
index at which a rule is broken and the first rule that is broken there. What is loaded keeps the
declarations, in order, with the fields that their kinds have. -/
theorem loadDeclarations_exact (allowEmpty : Bool) (declarations : List Declaration) :
    (loadDeclarations allowEmpty declarations = .error .empty ↔
      declarations = [] ∧ allowEmpty = false) ∧
    ((∃ abi, loadDeclarations allowEmpty declarations = .ok abi) ↔
      ¬ (declarations = [] ∧ allowEmpty = false) ∧
        ∀ index rule, ¬ BrokenAt [] declarations index rule) ∧
    (∀ index rule, loadDeclarations allowEmpty declarations = .error (.invalidEntry index rule) ↔
      FirstBroken [] declarations index rule) ∧
    ((∃ index rule, FirstBroken [] declarations index rule) ↔
      ∃ index rule, BrokenAt [] declarations index rule) ∧
    ∀ abi, loadDeclarations allowEmpty declarations = .ok abi →
      List.Forall₂ EntryOf declarations abi.entries := by
  refine ⟨loadDeclarations_eq_empty_iff, ?_, fun _ _ => loadDeclarations_eq_invalidEntry_iff,
    exists_firstBroken_iff, ?_⟩
  · constructor
    · rintro ⟨abi, h⟩
      obtain ⟨hallowed, hinterface⟩ := loadDeclarations_eq_ok_iff.1 h
      exact ⟨hallowed, (interface_eq_ok_iff.1 hinterface).1⟩
    · rintro ⟨hallowed, hsound⟩
      exact ⟨_, loadDeclarations_eq_ok_iff.2 ⟨hallowed, interface_eq_ok_iff.2 ⟨hsound, rfl⟩⟩⟩
  · intro abi h
    exact forall₂_entryOf (loadDeclarations_eq_ok_iff.1 h).2

end Loading

/-- A constructor with a name, an older function that only reads, a second constructor with outputs
and an event that indexes four inputs. -/
def vaultDeclarations : List Declaration :=
  let indexed : Parameter := ⟨"", "bool", [], true⟩
  [⟨.constructor, some "Vault", [indexed], [], none, false, true, true⟩,
    ⟨.function, some "total", [], [⟨"", "uint256", [], false⟩], none, true, false, false⟩,
    ⟨.constructor, none, [], [⟨"", "bool", [], false⟩], none, false, false, false⟩,
    ⟨.event, some "Opened", [indexed, indexed, indexed, indexed], [], none, false, false, false⟩]

/-- Of the faults of the vault the repeated constructor is reported, not its outputs or the event
behind it; what stands before it is loaded. -/
theorem loadDeclarations_exact_vault :
    FirstBroken [] vaultDeclarations 2 .repeatedConstructor ∧
      ∃ abi, loadDeclarations false (vaultDeclarations.take 2) = .ok abi ∧
        List.Forall₂ EntryOf (vaultDeclarations.take 2) abi.entries := by
  have hload : loadDeclarations false vaultDeclarations =
      .error (.invalidEntry 2 .repeatedConstructor) := rfl
  obtain ⟨-, -, hfirst, -⟩ := loadDeclarations_exact false vaultDeclarations
  obtain ⟨-, -, -, -, hentries⟩ := loadDeclarations_exact false (vaultDeclarations.take 2)
  exact ⟨(hfirst 2 .repeatedConstructor).1 hload, _, rfl, hentries _ rfl⟩

end AbiBindings.Abi
