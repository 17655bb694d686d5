import Mathlib.Data.List.Nodup
import AbiBindings.Naming.Inputs

/-!
# Names of inputs are free

The search for a free name ends at the least number that makes one, counted from the index of the
input. Hence the names of the inputs of one member are pairwise distinct and avoid the reserved
names.
-/

set_option autoImplicit false

namespace AbiBindings.Naming

/-- Different numbers make different names. -/
theorem numbered_injective (base : String) : Function.Injective (numbered base) := by
  intro m n h
  have h' := congrArg String.toList h
  simp only [numbered, String.toList_append, List.append_cancel_left_eq, Nat.toString_eq_repr,
    Nat.toList_repr] at h'
  simpa using congrArg (fun digits => Nat.ofDigitChars 10 digits 0) h'

/-- The search puts aside only names with smaller numbers, so its result is free in the whole list,
and every smaller number from the start on makes a name that is taken. -/
theorem firstFree_spec (taken : List String) (base : String) (n : Nat) :
    ∃ k, n ≤ k ∧ firstFree taken base n = numbered base k ∧ numbered base k ∉ taken ∧
      ∀ j, n ≤ j → j < k → numbered base j ∈ taken := by
  induction taken, n using firstFree.induct base with
  | case1 taken n h ih =>
    obtain ⟨k, hk, hname, hfree, hleast⟩ := ih
    have hne : ∀ j, n + 1 ≤ j → numbered base j ≠ numbered base n := by
      intro j hj heq
      have := numbered_injective base heq
      omega
    refine ⟨k, by omega, ?_, ?_, ?_⟩
    · rw [firstFree, dif_pos h, hname]
    · rwa [List.mem_erase_of_ne (hne k hk)] at hfree
    · intro j hj hjk
      rcases Nat.eq_or_lt_of_le hj with rfl | hlt
      · exact h
      · exact (List.mem_erase_of_ne (hne j hlt)).1 (hleast j hlt hjk)
  | case2 taken n h =>
    refine ⟨n, Nat.le_refl n, ?_, h, ?_⟩
    · rw [firstFree, dif_neg h]
    · intro j hj hjn
      omega

/-- The name of an input is free. -/
theorem inputName_not_mem (taken : List String) (index : Nat) (name : String) :
    inputName taken index name ∉ taken := by
  unfold inputName
  dsimp only
  split
  · obtain ⟨k, -, hname, hfree, -⟩ := firstFree_spec taken (baseName index name) index
    rwa [hname]
  · assumption

/-- The names given from an index on avoid those taken before and each other: every name counts as
taken for the inputs behind it. -/
theorem inputNamesFrom_fresh (taken : List String) (index : Nat) (names : List String) :
    (inputNamesFrom taken index names).Nodup ∧
      ∀ given ∈ inputNamesFrom taken index names, given ∉ taken := by
  induction names generalizing taken index with
  | nil => simp [inputNamesFrom]
  | cons name rest ih =>
    obtain ⟨hnodup, hfree⟩ := ih (inputName taken index name :: taken) (index + 1)
    simp only [inputNamesFrom, List.nodup_cons, List.forall_mem_cons]
    refine ⟨⟨?_, hnodup⟩, inputName_not_mem taken index name, ?_⟩
    · intro hmem
      exact hfree _ hmem List.mem_cons_self
    · intro given hgiven hmem
      exact hfree given hgiven (List.mem_cons_of_mem _ hmem)

/-- Every input gets one name. -/
theorem length_inputNamesFrom (taken : List String) (index : Nat) (names : List String) :
    (inputNamesFrom taken index names).length = names.length := by
  induction names generalizing taken index with
  | nil => rfl
  | cons name rest ih => simp [inputNamesFrom, ih]

/-- The names of the inputs of one member are pairwise distinct. -/
theorem inputNames_nodup (reserved names : List String) : (inputNames reserved names).Nodup :=
  (inputNamesFrom_fresh reserved 0 names).1

/-- No input bears a reserved name. -/
theorem not_mem_reserved_of_mem_inputNames {reserved names : List String} {given : String}
    (h : given ∈ inputNames reserved names) : given ∉ reserved :=
  (inputNamesFrom_fresh reserved 0 names).2 given h

/-- Every input of a member gets one name. -/
theorem length_inputNames (reserved names : List String) :
    (inputNames reserved names).length = names.length :=
  length_inputNamesFrom reserved 0 names

end AbiBindings.Naming
