import Mathlib.Data.List.Forall2

/-!
# Traversals that may fail

Laws of computations that end at their first error. A traversal of a list succeeds exactly if it
succeeds at every element, and otherwise fails as the first element does at which it fails. Every
stage of the generator is such a traversal, so these laws decide which fault is reported.
-/

set_option autoImplicit false

namespace AbiBindings.Traversal

variable {ε α β γ δ : Type}

/-- A sequence of two computations succeeds if both do. -/
theorem bind_eq_ok_iff {x : Except ε α} {f : α → Except ε β} {b : β} :
    x >>= f = .ok b ↔ ∃ a, x = .ok a ∧ f a = .ok b := by
  cases x with
  | error e => simp [bind, Except.bind]
  | ok a => simp [bind, Except.bind]

/-- A sequence of two computations fails as the first, or as the second behind a success. -/
theorem bind_eq_error_iff {x : Except ε α} {f : α → Except ε β} {e : ε} :
    x >>= f = .error e ↔ x = .error e ∨ ∃ a, x = .ok a ∧ f a = .error e := by
  cases x with
  | error e' => simp [bind, Except.bind]
  | ok a => simp [bind, Except.bind]

/-- An outcome is a value if it is checked to be one. -/
theorem isOk_iff {x : Except ε α} : x.isOk ↔ ∃ a, x = .ok a := by
  cases x with
  | error e => simp [Except.isOk, Except.toBool]
  | ok a => simp [Except.isOk, Except.toBool]

/-- The error of a computation that fails. -/
def error? : Except ε α → Option ε
  | .ok _ => none
  | .error e => some e

/-- The error of an outcome is the one that it fails with. -/
theorem error?_eq_some_iff {x : Except ε α} {e : ε} : error? x = some e ↔ x = .error e := by
  cases x with
  | error e' => simp [error?]
  | ok a => simp [error?]

/-- A computation that does not succeed fails. -/
theorem exists_error_of_not_ok {x : Except ε α} (h : ¬ ∃ a, x = .ok a) : ∃ e, x = .error e := by
  cases x with
  | error e => exact ⟨e, rfl⟩
  | ok a => exact absurd ⟨a, rfl⟩ h

/-- A traversal succeeds with the results of its elements. -/
theorem mapM_eq_ok_iff {f : α → Except ε β} {l : List α} {out : List β} :
    l.mapM f = .ok out ↔ List.Forall₂ (fun a b => f a = .ok b) l out := by
  induction l generalizing out with
  | nil => cases out <;> simp [pure, Except.pure]
  | cons a l ih =>
    rw [List.mapM_cons, bind_eq_ok_iff]
    constructor
    · rintro ⟨b, hb, h⟩
      obtain ⟨bs, hbs, h⟩ := bind_eq_ok_iff.1 h
      cases h
      exact .cons hb (ih.1 hbs)
    · rintro (_ | ⟨hb, hbs⟩)
      exact ⟨_, hb, bind_eq_ok_iff.2 ⟨_, ih.2 hbs, rfl⟩⟩

/-- A traversal succeeds if and only if it succeeds at every element. -/
theorem exists_mapM_ok_iff {f : α → Except ε β} {l : List α} :
    (∃ out, l.mapM f = .ok out) ↔ ∀ a ∈ l, ∃ b, f a = .ok b := by
  induction l with
  | nil => simp [pure, Except.pure]
  | cons a l ih =>
    rw [List.forall_mem_cons, ← ih]
    constructor
    · rintro ⟨out, h⟩
      cases mapM_eq_ok_iff.1 h with
      | cons hb hbs => exact ⟨⟨_, hb⟩, _, mapM_eq_ok_iff.2 hbs⟩
    · rintro ⟨⟨b, hb⟩, out, hout⟩
      exact ⟨b :: out, mapM_eq_ok_iff.2 (.cons hb (mapM_eq_ok_iff.1 hout))⟩

/-- A traversal whose results are known by a function. -/
theorem mapM_eq_ok_map {f : α → Except ε β} {value : α → β} {l : List α}
    (h : ∀ a ∈ l, f a = .ok (value a)) : l.mapM f = .ok (l.map value) := by
  rw [mapM_eq_ok_iff, List.forall₂_map_right_iff, List.forall₂_same]
  exact h

/-- A key of the results that the elements determine is a key of the elements. -/
theorem map_eq_map_of_mapM_eq_ok {f : α → Except ε β} {key : β → γ} {given : α → γ} {l : List α}
    {out : List β} (h : l.mapM f = .ok out) (hkey : ∀ a b, f a = .ok b → key b = given a) :
    out.map key = l.map given := by
  rw [← List.forall₂_eq_eq_eq, List.forall₂_map_left_iff, List.forall₂_map_right_iff]
  exact ((mapM_eq_ok_iff.1 h).imp hkey).flip

/-- An element that came of a list came of one of its elements. -/
theorem exists_of_mem_of_forall₂ {related : α → β → Prop} {l : List α} {out : List β} {b : β}
    (h : List.Forall₂ related l out) (hb : b ∈ out) : ∃ a ∈ l, related a b := by
  induction h with
  | nil => cases hb
  | @cons a b' l out hab _ ih =>
    rcases List.mem_cons.1 hb with rfl | hmem
    · exact ⟨a, List.mem_cons_self, hab⟩
    · obtain ⟨c, hc, hcb⟩ := ih hmem
      exact ⟨c, List.mem_cons_of_mem _ hc, hcb⟩

/-- Every result of a traversal is the result of an element. -/
theorem exists_of_mem_of_mapM_eq_ok {f : α → Except ε β} {l : List α} {out : List β} {b : β}
    (h : l.mapM f = .ok out) (hb : b ∈ out) : ∃ a ∈ l, f a = .ok b := by
  have hexists := exists_of_mem_of_forall₂ (mapM_eq_ok_iff.1 h) hb
  exact hexists

/-- A traversal fails as the first element at which it fails; the elements behind that one do not
matter. -/
theorem mapM_eq_error_iff {f : α → Except ε β} {l : List α} {e : ε} :
    l.mapM f = .error e ↔ ∃ before a after, l = before ++ a :: after ∧
      (∀ b ∈ before, ∃ x, f b = .ok x) ∧ f a = .error e := by
  induction l with
  | nil => simp [pure, Except.pure]
  | cons a l ih =>
    rw [List.mapM_cons, bind_eq_error_iff]
    constructor
    · rintro (h | ⟨x, hx, h⟩)
      · exact ⟨[], a, l, rfl, by simp, h⟩
      · obtain h | ⟨_, _, h⟩ := bind_eq_error_iff.1 h
        · obtain ⟨before, b, after, rfl, hbefore, hb⟩ := ih.1 h
          refine ⟨a :: before, b, after, rfl, ?_, hb⟩
          exact List.forall_mem_cons.2 ⟨⟨x, hx⟩, hbefore⟩
        · cases h
    · rintro ⟨before, b, after, hl, hbefore, hb⟩
      cases before with
      | nil =>
        obtain ⟨rfl, rfl⟩ := List.cons.inj hl
        exact Or.inl hb
      | cons c before =>
        obtain ⟨rfl, rfl⟩ := List.cons.inj hl
        obtain ⟨⟨x, hx⟩, hbefore⟩ := List.forall_mem_cons.1 hbefore
        have hl : (before ++ b :: after).mapM f = .error e :=
          ih.2 ⟨before, b, after, rfl, hbefore, hb⟩
        exact Or.inr ⟨x, hx, bind_eq_error_iff.2 (Or.inl hl)⟩

/-! ## Results that are changed afterwards -/

/-- An outcome stays what it is without a change. -/
theorem eq_map_id (x : Except ε α) : x = x.map id := by
  cases x <;> rfl

/-- Behind a changed result, a sequence gives the result of the sequence before with a change, if
its second computation does. -/
theorem bind_eq_map_bind {x : Except ε α} {x' : Except ε β} {change : α → β}
    {f : α → Except ε γ} {f' : β → Except ε δ} {changeAfter : γ → δ} (hx : x' = x.map change)
    (hf : ∀ a, f' (change a) = (f a).map changeAfter) :
    x' >>= f' = (x >>= f).map changeAfter := by
  subst hx
  cases x with
  | error e => rfl
  | ok a => exact hf a

/-- If every element gives the result of another traversal with a change, so does the traversal. -/
theorem mapM_eq_map_mapM {f : α → Except ε β} {f' : α → Except ε γ} {change : β → γ}
    (h : ∀ a, f' a = (f a).map change) (l : List α) :
    l.mapM f' = (l.mapM f).map (List.map change) := by
  induction l with
  | nil => rfl
  | cons a l ih =>
    rw [List.mapM_cons, List.mapM_cons]
    apply bind_eq_map_bind (h a)
    intro b
    apply bind_eq_map_bind ih
    intro bs
    rfl

/-- A traversal of changed elements gives the results before with a change, if each element does. -/
theorem mapM_map_eq_map_mapM {f : α → Except ε β} {f' : γ → Except ε δ} {before : α → γ}
    {after : β → δ} {l : List α} (h : ∀ a ∈ l, f' (before a) = (f a).map after) :
    (l.map before).mapM f' = (l.mapM f).map (List.map after) := by
  induction l with
  | nil => rfl
  | cons a l ih =>
    obtain ⟨ha, hl⟩ := List.forall_mem_cons.1 h
    rw [List.map_cons, List.mapM_cons, List.mapM_cons]
    apply bind_eq_map_bind ha
    intro b
    apply bind_eq_map_bind (ih hl)
    intro bs
    rfl

/-- A traversal does not see a change of the elements that no element sees. -/
theorem mapM_map_eq_mapM {f : α → Except ε β} {f' : γ → Except ε β} {before : α → γ}
    {l : List α} (h : ∀ a ∈ l, f' (before a) = f a) : (l.map before).mapM f' = l.mapM f := by
  have hsame : ∀ a ∈ l, f' (before a) = (f a).map id := by
    intro a ha
    rw [h a ha]
    exact eq_map_id (f a)
  rw [mapM_map_eq_map_mapM hsame, List.map_id_fun]
  exact (eq_map_id _).symm

end AbiBindings.Traversal
