import AbiBindings.Proofs.Joining

/-!
# Runs between separators

The runs of a list are its longest stretches without separators. They are the pieces of the list
that are not empty (`runs_iff`), and they stay the same if the stretches of separators between them
are replaced by others (`words_eq_of_respaced`).
-/

set_option autoImplicit false

namespace AbiBindings.Text

variable {α : Type} {isSeparator : α → Bool}

/-- Whether lists are the runs of a list, in order. A run has elements, none of them a separator,
and ends at a separator or with the list. -/
inductive Runs (isSeparator : α → Bool) : List α → List (List α) → Prop
  | nil : Runs isSeparator [] []
  | separator {a : α} {l : List α} {runs : List (List α)} (ha : isSeparator a)
      (h : Runs isSeparator l runs) : Runs isSeparator (a :: l) runs
  | run {piece l : List α} {runs : List (List α)} (hne : piece ≠ [])
      (hpiece : ∀ a ∈ piece, ¬ isSeparator a) (hend : ∀ a ∈ l.head?, isSeparator a)
      (h : Runs isSeparator l runs) : Runs isSeparator (piece ++ l) (piece :: runs)

/-- Whether two lists are the same but for stretches of separators, each of which may be replaced by
any other that is not empty. -/
inductive Respaced (isSeparator : α → Bool) : List α → List α → Prop
  | nil : Respaced isSeparator [] []
  | other {a : α} {l m : List α} (ha : ¬ isSeparator a) (h : Respaced isSeparator l m) :
      Respaced isSeparator (a :: l) (a :: m)
  | separators {before after l m : List α} (hbefore : before ≠ []) (hafter : after ≠ [])
      (hall : ∀ a ∈ before ++ after, isSeparator a) (h : Respaced isSeparator l m) :
      Respaced isSeparator (before ++ l) (after ++ m)

/-- A run may be put before respaced lists. -/
theorem Respaced.append_run {piece l m : List α} (hpiece : ∀ a ∈ piece, ¬ isSeparator a)
    (h : Respaced isSeparator l m) : Respaced isSeparator (piece ++ l) (piece ++ m) := by
  induction piece with
  | nil => exact h
  | cons a piece ih =>
    obtain ⟨ha, hrest⟩ := List.forall_mem_cons.1 hpiece
    exact .other ha (ih hrest)

/-- The pieces of a list that are not empty. -/
def words (isSeparator : α → Bool) (l : List α) : List (List α) :=
  (splitAt isSeparator l).filter fun piece => !piece.isEmpty

/-- Before a separator stands an empty part. -/
theorem splitAt_cons_of_isSeparator {a : α} (ha : isSeparator a) (l : List α) :
    splitAt isSeparator (a :: l) = [] :: splitAt isSeparator l := by
  simp [splitAt, ha]

/-- A separator adds no run. -/
theorem words_cons_of_isSeparator {a : α} (ha : isSeparator a) (l : List α) :
    words isSeparator (a :: l) = words isSeparator l := by
  simp [words, splitAt_cons_of_isSeparator ha]

/-- Separators add no runs. -/
theorem words_append_of_isSeparator {before : List α} (h : ∀ a ∈ before, isSeparator a)
    (l : List α) : words isSeparator (before ++ l) = words isSeparator l := by
  induction before with
  | nil => rfl
  | cons a before ih =>
    obtain ⟨ha, hbefore⟩ := List.forall_mem_cons.1 h
    rw [List.cons_append, words_cons_of_isSeparator ha, ih hbefore]

/-- Elements up to a separator are a run. -/
theorem words_append_run {piece l : List α} (hne : piece ≠ [])
    (hpiece : ∀ a ∈ piece, ¬ isSeparator a) (hend : ∀ a ∈ l.head?, isSeparator a) :
    words isSeparator (piece ++ l) = piece :: words isSeparator l := by
  have hword : (!piece.isEmpty) = true := by simpa using hne
  cases l with
  | nil => simp [words, splitAt_eq_singleton hpiece, splitAt, hword]
  | cons a l =>
    have ha : isSeparator a := hend a rfl
    have hsplit := splitAt_append_cons ha piece l
    rw [splitAt_eq_singleton hpiece] at hsplit
    rw [words_cons_of_isSeparator ha, words, hsplit]
    simp [words, hword]

/-- Every list has runs. -/
theorem exists_runs (isSeparator : α → Bool) (l : List α) :
    ∃ runs, Runs isSeparator l runs := by
  induction l with
  | nil => exact ⟨[], .nil⟩
  | cons a l ih =>
    obtain ⟨runs, hruns⟩ := ih
    by_cases ha : isSeparator a
    · exact ⟨runs, .separator ha hruns⟩
    · have hone : ∀ b ∈ [a], ¬ isSeparator b := by simpa using ha
      -- the element starts a run of its own, or it belongs to the one behind it
      cases hruns with
      | nil => exact ⟨[[a]], .run (by simp) hone (by simp) .nil⟩
      | @separator b l runs hb h =>
        have hend : ∀ c ∈ (b :: l).head?, isSeparator c := by simpa using hb
        exact ⟨[a] :: runs, .run (by simp) hone hend (.separator hb h)⟩
      | @run piece l runs hne hpiece hend h =>
        have hlonger : ∀ b ∈ a :: piece, ¬ isSeparator b := by
          intro b hb
          rcases List.mem_cons.1 hb with rfl | hb
          · exact ha
          · exact hpiece b hb
        exact ⟨(a :: piece) :: runs, .run (by simp) hlonger hend h⟩

/-- The runs of a list are its pieces that are not empty. -/
theorem runs_iff {l : List α} {runs : List (List α)} :
    Runs isSeparator l runs ↔ runs = words isSeparator l := by
  have hwords : ∀ other, Runs isSeparator l other → other = words isSeparator l := by
    intro other h
    induction h with
    | nil => rfl
    | separator ha _ ih => rw [words_cons_of_isSeparator ha, ih]
    | run hne hpiece hend _ ih => rw [words_append_run hne hpiece hend, ih]
  constructor
  · exact hwords runs
  · rintro rfl
    obtain ⟨other, hother⟩ := exists_runs isSeparator l
    rwa [hwords other hother] at hother

/-- Lists that are the same but for stretches of separators begin with the same piece, and their
other pieces that are not empty are the same, too. -/
theorem splitAt_of_respaced {l m : List α} (h : Respaced isSeparator l m) :
    ∃ first rest rest', splitAt isSeparator l = first :: rest ∧
      splitAt isSeparator m = first :: rest' ∧
      rest.filter (fun piece => !piece.isEmpty) = rest'.filter fun piece => !piece.isEmpty := by
  induction h with
  | nil => exact ⟨[], [], [], rfl, rfl, rfl⟩
  | @other a l m ha _ ih =>
    obtain ⟨first, rest, rest', hl, hm, hrest⟩ := ih
    refine ⟨a :: first, rest, rest', ?_, ?_, hrest⟩
    · simp [splitAt, ha, hl]
    · simp [splitAt, ha, hm]
  | @separators before after l m hbefore hafter hall _ ih =>
    obtain ⟨first, rest, rest', hl, hm, hrest⟩ := ih
    obtain ⟨a, before, rfl⟩ := List.exists_cons_of_ne_nil hbefore
    obtain ⟨b, after, rfl⟩ := List.exists_cons_of_ne_nil hafter
    obtain ⟨hbefores, hafters⟩ := List.forall_mem_append.1 hall
    obtain ⟨ha, hbefores⟩ := List.forall_mem_cons.1 hbefores
    obtain ⟨hb, hafters⟩ := List.forall_mem_cons.1 hafters
    have hwords : words isSeparator l = words isSeparator m := by
      rw [words, words, hl, hm, List.filter_cons, List.filter_cons, hrest]
    refine ⟨[], _, _, splitAt_cons_of_isSeparator ha _, splitAt_cons_of_isSeparator hb _, ?_⟩
    have hbefore' := words_append_of_isSeparator hbefores l
    have hafter' := words_append_of_isSeparator hafters m
    rw [← hwords, ← hbefore'] at hafter'
    exact hafter'.symm

/-- Replacing stretches of separators by others leaves the runs as they are. -/
theorem words_eq_of_respaced {l m : List α} (h : Respaced isSeparator l m) :
    words isSeparator l = words isSeparator m := by
  obtain ⟨first, rest, rest', hl, hm, hrest⟩ := splitAt_of_respaced h
  rw [words, words, hl, hm, List.filter_cons, List.filter_cons, hrest]

end AbiBindings.Text
