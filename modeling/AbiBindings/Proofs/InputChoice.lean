import Mathlib.Data.List.Perm.Subperm
import Mathlib.Order.Bounds.Defs
import AbiBindings.Proofs.Identifiers

/-!
# How the names of inputs are chosen

The name of an input is its base if that is free, and otherwise the base with the least number from
the index of the input on that makes a free name (`ChosenFrom`). Free is what is neither reserved
nor given to an input before it, so inputs further behind do not matter.

A name with a number is no word of the language. So a word that the language keeps for itself,
although it is read as an identifier, is chosen only where the name of the input itself is in lower
case such a word.
-/

set_option autoImplicit false

namespace AbiBindings.Naming

open Code

/-- Whether a name is the one to choose for an input at an index, given the names that are taken. -/
structure ChosenFrom (taken : List String) (index : Nat) (name given : String) : Prop where
  /-- A base that is free is kept. -/
  kept : baseName index name ∉ taken → given = baseName index name
  /-- A base that is taken gets the least number that makes a free name. It is found within as many
  steps as there are names that are taken. -/
  renamed : baseName index name ∈ taken →
    ∃ k, IsLeast {k | index ≤ k ∧ numbered (baseName index name) k ∉ taken} k ∧
      k ≤ index + taken.length ∧ given = numbered (baseName index name) k

/-- Numbers that are passed over make as many names that are taken. -/
theorem le_of_all_taken {taken : List String} {base : String} {index k : Nat}
    (h : ∀ j, index ≤ j → j < k → numbered base j ∈ taken) : k ≤ index + taken.length := by
  have hnodup : ((List.range' index (k - index)).map (numbered base)).Nodup :=
    (List.nodup_range' 1).map (numbered_injective base)
  have hsubset : (List.range' index (k - index)).map (numbered base) ⊆ taken := by
    intro s hs
    obtain ⟨j, hj, rfl⟩ := List.mem_map.1 hs
    rw [List.mem_range'_1] at hj
    exact h j hj.1 (by omega)
  have hlength := (hnodup.subperm hsubset).length_le
  rw [List.length_map, List.length_range'] at hlength
  omega

/-- The name of an input is chosen as the rule says. -/
theorem chosenFrom_inputName (taken : List String) (index : Nat) (name : String) :
    ChosenFrom taken index name (inputName taken index name) where
  kept h := if_neg h
  renamed h := by
    obtain ⟨k, hk, hname, hfree, hbefore⟩ := firstFree_spec taken (baseName index name) index
    refine ⟨k, ⟨⟨hk, hfree⟩, ?_⟩, le_of_all_taken hbefore, (if_pos h).trans hname⟩
    rintro j ⟨hj, hjfree⟩
    by_contra hlt
    exact hjfree (hbefore j hj (Nat.lt_of_not_le hlt))

/-- It does not matter in which order names were taken. -/
theorem ChosenFrom.perm {taken others : List String} {index : Nat} {name given : String}
    (h : ChosenFrom taken index name given) (hperm : taken.Perm others) :
    ChosenFrom others index name given := by
  obtain ⟨hkept, hrenamed⟩ := h
  simp only [hperm.mem_iff, hperm.length_eq] at hkept hrenamed
  exact ⟨hkept, hrenamed⟩

/-- Every input gets the name to choose, given the names of the inputs before it. -/
theorem exists_chosenFrom (taken : List String) (index : Nat) {names : List String} {i : Nat}
    {name : String} (h : names[i]? = some name) :
    ∃ given, (inputNamesFrom taken index names)[i]? = some given ∧
      ChosenFrom (taken ++ (inputNamesFrom taken index names).take i) (index + i) name given := by
  induction names generalizing taken index i with
  | nil => cases h
  | cons first rest ih =>
    cases i with
    | zero =>
      obtain rfl := Option.some.inj h
      refine ⟨inputName taken index first, rfl, ?_⟩
      rw [List.take_zero, List.append_nil]
      exact chosenFrom_inputName taken index first
    | succ i =>
      obtain ⟨given, hgiven, hchosen⟩ := ih (inputName taken index first :: taken) (index + 1) h
      refine ⟨given, hgiven, ?_⟩
      rw [inputNamesFrom, List.take_succ_cons]
      rw [Nat.add_assoc, Nat.add_comm 1] at hchosen
      exact hchosen.perm List.perm_middle.symm

/-- A word that the language keeps for itself is chosen only as the lower-case form of a name. -/
theorem ChosenFrom.eq_snakeName {taken : List String} {index : Nat} {name given : String}
    (h : ChosenFrom taken index name given) (hlenient : given ∈ lenientWords) :
    name ≠ "" ∧ given = snakeName name := by
  by_cases htaken : baseName index name ∈ taken
  · obtain ⟨k, -, -, rfl⟩ := h.renamed htaken
    exact absurd hlenient (isFree_numbered (isMade_baseName index name).name k).strict
  · have hbase := h.kept htaken
    unfold baseName at hbase
    split at hbase
    · rw [hbase] at hlenient
      exact absurd hlenient (isFree_unnamed index).strict
    · exact ⟨‹_›, hbase⟩

/-- Inputs that stand further behind do not change the names of those before them. -/
theorem inputNamesFrom_prefix (taken : List String) (index : Nat) (earlier later : List String) :
    inputNamesFrom taken index earlier <+: inputNamesFrom taken index (earlier ++ later) := by
  induction earlier generalizing taken index with
  | nil => exact List.nil_prefix
  | cons name rest ih =>
    rw [List.cons_append, inputNamesFrom, inputNamesFrom]
    exact (List.prefix_cons_inj _).2 (ih _ _)

/-- Every input gets one name, in order. The names are distinct identifiers that are not reserved,
each is the one to choose after those before it, and inputs further behind change nothing. A word
that the language keeps for itself in another way appears only as the lower-case form of the name of
an input. -/
theorem input_names_are_chosen (reserved names : List String) :
    (inputNames reserved names).length = names.length ∧
    (inputNames reserved names).Nodup ∧
    (∀ given ∈ inputNames reserved names,
      given ∉ reserved ∧ IsName given.toList ∧ IsIdentifier given) ∧
    (∀ i name, names[i]? = some name → ∃ given, (inputNames reserved names)[i]? = some given ∧
      ChosenFrom (reserved ++ (inputNames reserved names).take i) i name given ∧
      (given ∈ lenientWords → name ≠ "" ∧ given = snakeName name)) ∧
    ∀ later, inputNames reserved names <+: inputNames reserved (names ++ later) := by
  refine ⟨length_inputNames reserved names, inputNames_nodup reserved names, ?_, ?_,
    inputNamesFrom_prefix reserved 0 names⟩
  · intro given hgiven
    have hmade := isMade_of_mem_inputNamesFrom reserved 0 given hgiven
    exact ⟨not_mem_reserved_of_mem_inputNames hgiven, hmade.name, hmade.isIdentifier⟩
  · intro i name hname
    obtain ⟨given, hgiven, hchosen⟩ := exists_chosenFrom reserved 0 hname
    rw [Nat.zero_add] at hchosen
    exact ⟨given, hgiven, hchosen, hchosen.eq_snakeName⟩

/-- Behind `b_2` and `b`, another `b` cannot become `b_2`, and becomes `b_3`. -/
theorem input_names_are_chosen_behind_number :
    inputNames ["web3"] ["b_2", "b", "b", "web3", ""] = ["b_2", "b", "b_3", "web3_3", "p4"] ∧
      ChosenFrom ["web3", "b_2", "b"] 2 "b" "b_3" := by
  have hnames : inputNames ["web3"] ["b_2", "b", "b", "web3", ""] =
      ["b_2", "b", "b_3", "web3_3", "p4"] := by
    decide +kernel
  obtain ⟨-, -, -, hchosen, -⟩ :=
    input_names_are_chosen ["web3"] ["b_2", "b", "b", "web3", ""]
  obtain ⟨given, hgiven, hchosen, -⟩ := hchosen 2 "b" rfl
  rw [hnames] at hgiven hchosen
  obtain rfl := Option.some.inj hgiven
  exact ⟨hnames, hchosen⟩

end AbiBindings.Naming
