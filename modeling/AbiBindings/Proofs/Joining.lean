import AbiBindings.Text.Join

/-!
# Joined and cut texts

Laws of texts that are written one after the other with a separator between them. Cutting at the
separator is the way back as far as the texts themselves are cut nowhere.
-/

set_option autoImplicit false

namespace AbiBindings.Text

/-- The join of two texts or more begins with the first text and a separator. -/
theorem join_cons_cons (separator s t : String) (rest : List String) :
    join separator (s :: t :: rest) = s ++ separator ++ join separator (t :: rest) :=
  rfl

/-- A property of the characters of the separator and of all texts is one of their join. -/
theorem all_join {p : Char → Bool} {separator : String} {texts : List String}
    (hseparator : separator.toList.all p) (h : ∀ s ∈ texts, s.toList.all p) :
    (join separator texts).toList.all p := by
  induction texts with
  | nil => rfl
  | cons s rest ih =>
    obtain ⟨hs, hrest⟩ := List.forall_mem_cons.1 h
    cases rest with
    | nil => exact hs
    | cons t rest =>
      rw [join_cons_cons, String.toList_append, String.toList_append, List.all_append,
        List.all_append, hs, hseparator, ih hrest]
      rfl

/-- Texts whose characters are replaced may be joined before or after, with the separator replaced,
too. -/
theorem flatMap_join {α : Type} {f : Char → List Char} {before after : α → String}
    {separator other : String} {l : List α}
    (hseparator : separator.toList.flatMap f = other.toList)
    (h : ∀ a ∈ l, (before a).toList.flatMap f = (after a).toList) :
    (join separator (l.map before)).toList.flatMap f = (join other (l.map after)).toList := by
  induction l with
  | nil => rfl
  | cons a l ih =>
    obtain ⟨ha, hl⟩ := List.forall_mem_cons.1 h
    cases l with
    | nil => exact ha
    | cons b l =>
      simp only [List.map_cons, join_cons_cons, String.toList_append, List.flatMap_append]
      rw [ha, hseparator]
      exact congrArg _ (ih hl)

/-! ## Cutting -/

/-- A list has at least one part between separators. -/
theorem splitAt_ne_nil {α : Type} (isSeparator : α → Bool) (l : List α) :
    splitAt isSeparator l ≠ [] := by
  cases l with
  | nil => simp [splitAt]
  | cons a l =>
    rw [splitAt]
    split
    · simp
    · split <;> simp

/-- A list that is cut at a separator is cut before it and behind it. -/
theorem splitAt_append_cons {α : Type} {isSeparator : α → Bool} {a : α} (ha : isSeparator a)
    (l m : List α) :
    splitAt isSeparator (l ++ a :: m) = splitAt isSeparator l ++ splitAt isSeparator m := by
  induction l with
  | nil => simp [splitAt, ha]
  | cons b l ih =>
    rw [List.cons_append, splitAt, splitAt, ih]
    by_cases hb : isSeparator b
    · simp [hb]
    · cases hpieces : splitAt isSeparator l with
      | nil => exact absurd hpieces (splitAt_ne_nil isSeparator l)
      | cons piece pieces => simp [hb]

/-- A list without separators is one piece. -/
theorem splitAt_eq_singleton {α : Type} {isSeparator : α → Bool} {l : List α}
    (h : ∀ a ∈ l, ¬ isSeparator a) : splitAt isSeparator l = [l] := by
  induction l with
  | nil => rfl
  | cons a l ih =>
    obtain ⟨ha, hl⟩ := List.forall_mem_cons.1 h
    rw [splitAt, if_neg ha, ih hl]

/-- The pieces of a list hold its elements, but for the separators. -/
theorem of_mem_splitAt {α : Type} {isSeparator : α → Bool} {l piece : List α}
    (h : piece ∈ splitAt isSeparator l) : ∀ a ∈ piece, a ∈ l ∧ ¬ isSeparator a := by
  induction l generalizing piece with
  | nil =>
    obtain rfl := List.mem_singleton.1 h
    simp
  | cons b l ih =>
    have hlater : ∀ {other : List α}, other ∈ splitAt isSeparator l →
        ∀ a ∈ other, a ∈ b :: l ∧ ¬ isSeparator a := by
      intro other hother a ha
      obtain ⟨hmem, hne⟩ := ih hother a ha
      exact ⟨List.mem_cons_of_mem _ hmem, hne⟩
    rw [splitAt] at h
    split at h
    · rcases List.mem_cons.1 h with rfl | h
      · simp
      · exact hlater h
    · rename_i hb
      cases hpieces : splitAt isSeparator l with
      | nil => exact absurd hpieces (splitAt_ne_nil isSeparator l)
      | cons first rest =>
        rw [hpieces] at h hlater
        rcases List.mem_cons.1 h with rfl | h
        · exact List.forall_mem_cons.2 ⟨⟨List.mem_cons_self, hb⟩, hlater List.mem_cons_self⟩
        · exact hlater (List.mem_cons_of_mem _ h)

/-- The pieces of a list, put together, are the list without the separators. -/
theorem flatten_splitAt {α : Type} (isSeparator : α → Bool) (l : List α) :
    (splitAt isSeparator l).flatten = l.filter fun a => !isSeparator a := by
  induction l with
  | nil => rfl
  | cons a l ih =>
    rw [splitAt]
    split
    · rename_i ha
      simp [ih, ha]
    · rename_i ha
      cases hpieces : splitAt isSeparator l with
      | nil => exact absurd hpieces (splitAt_ne_nil isSeparator l)
      | cons piece pieces =>
        rw [hpieces, List.flatten_cons] at ih
        simp [ih, ha]

/-- Pieces with a separator before each of them are found again behind any piece. -/
theorem splitAt_append_flatMap {α : Type} {isSeparator : α → Bool} {a : α} (ha : isSeparator a)
    {l : List α} {pieces : List (List α)} (hl : ∀ b ∈ l, ¬ isSeparator b)
    (h : ∀ piece ∈ pieces, ∀ b ∈ piece, ¬ isSeparator b) :
    splitAt isSeparator (l ++ pieces.flatMap (a :: ·)) = l :: pieces := by
  induction pieces generalizing l with
  | nil => rw [List.flatMap_nil, List.append_nil, splitAt_eq_singleton hl]
  | cons piece pieces ih =>
    obtain ⟨hpiece, hpieces⟩ := List.forall_mem_cons.1 h
    rw [List.flatMap_cons, List.cons_append, splitAt_append_cons ha, splitAt_eq_singleton hl,
      ih hpiece hpieces]
    rfl

/-- A text without separators is one piece. -/
theorem split_eq_singleton {isSeparator : Char → Bool} {s : String}
    (h : ∀ c ∈ s.toList, ¬ isSeparator c) : split isSeparator s = [s] := by
  rw [split, splitAt_eq_singleton h, List.map_singleton, String.ofList_toList]

section Separator

variable {isSeparator : Char → Bool} {separator : String} {c : Char}
  (hseparator : separator.toList = [c]) (hc : isSeparator c)

include hseparator hc

/-- Two texts with a separator between them are cut separately. -/
theorem split_append (s t : String) :
    split isSeparator (s ++ separator ++ t) = split isSeparator s ++ split isSeparator t := by
  have hlist : (s ++ separator ++ t).toList = s.toList ++ c :: t.toList := by simp [hseparator]
  rw [split, hlist, splitAt_append_cons hc, List.map_append, split, split]

/-- The pieces of a join are the pieces of its texts. -/
theorem split_join {texts : List String} (h : texts ≠ []) :
    split isSeparator (join separator texts) = texts.flatMap (split isSeparator) := by
  induction texts with
  | nil => exact absurd rfl h
  | cons s rest ih =>
    cases rest with
    | nil => simp [join]
    | cons t rest =>
      rw [List.flatMap_cons, join_cons_cons, split_append hseparator hc, ih (by simp)]

end Separator

end AbiBindings.Text
