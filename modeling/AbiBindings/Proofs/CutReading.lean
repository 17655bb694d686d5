import AbiBindings.Json.Reader
import Mathlib.Data.List.Basic

/-!
# Reading a document that is cut short

The same reader goes over two documents in step: one that a device delivers and breaks off, and one
in memory that goes on behind the break. As long as the device has bytes the readers do the same.
Behind the last one the first gives up with the failure of the device, and nothing is known of the
second.

A device that ends without a failure is the case of nothing behind the break; then both readers
come to an end of the document.
-/

set_option autoImplicit false

namespace AbiBindings.Json

namespace Reader

/-- A reader goes on where its first part stops, unless that fails. -/
theorem bind_apply {α β : Type} (r : Reader α) (f : α → Reader β) (c : Cursor) :
    (r >>= f) c = match r c with
      | (.ok a, c') => f a c'
      | (.error fault, c') => (.error fault, c') := by
  change ExceptT.bindCont f (r c).1 (r c).2 = _
  rcases r c with ⟨_ | a, c'⟩ <;> rfl

/-- A byte that is there is seen. -/
theorem peek_cons {c : Cursor} {b : UInt8} {rest : List UInt8} (h : c.rest = b :: rest) :
    ∃ taken, peek c = (.ok (some b), { c with taken := taken }) := by
  obtain ⟨_, position, taken, delivery⟩ := c
  cases h
  cases delivery <;> exact ⟨_, rfl⟩

/-- At the end of a document that does not break off, nothing is seen. -/
theorem peek_nil {c : Cursor} (h : c.rest = [])
    (whole : ∀ text, c.delivery ≠ .stream (some text)) : peek c = (.ok none, c) := by
  obtain ⟨_, position, taken, delivery⟩ := c
  cases h
  rcases delivery with _ | _ | _ | text
  · rfl
  · rfl
  · rfl
  · exact absurd rfl (whole text)

/-- Where a device fails, looking for the next byte fails. -/
theorem peek_broken {c : Cursor} {text : String} (h : c.rest = [])
    (broken : c.delivery = .stream (some text)) :
    peek c = (.error ⟨.deviceFailure text, none⟩, c) := by
  obtain ⟨_, position, taken, delivery⟩ := c
  cases h; cases broken
  rfl

end Reader

/-- Whether a problem is a failure of the device. -/
def Problem.isFailure : Problem → Bool
  | .deviceFailure _ => true
  | _ => false

/-- How a document is cut short. A device that does not fail delivers all of it. -/
structure Cut where
  failure : Option String
  /-- The bytes behind the break. -/
  more : List UInt8
  whole : failure = none → more = []

namespace Cut

variable {k : Cut} {α β : Type} {n m : Nat}

/-- Cursors at the same place of the two documents, with fewer than `n` bytes before the break. -/
structure Beside (k : Cut) (n : Nat) (c d : Cursor) : Prop where
  rest : d.rest = c.rest ++ k.more
  cut : c.delivery = .stream k.failure
  uncut : d.delivery = .bytes
  length : c.rest.length < n

/-- Cursors at the same place that look at the same byte, or at the end of both documents. A device
that fails is not seen to end. -/
structure Looking (k : Cut) (n : Nat) (b : Option UInt8) (c d : Cursor) : Prop extends
    k.Beside n c d where
  head : c.rest.head? = b
  ended : b = none → k.failure = none

/-- The problems that the two readers tell: the same one, which is none of the device. Whether a
comma behind the last element of an array is itself the last may depend on what follows. -/
def SameProblem (k : Cut) (problem problem' : Problem) : Prop :=
  problem.isFailure = false ∧
    (problem' = problem ∨
      k.more ≠ [] ∧ problem = .trailingCharacters ∧ problem' = .trailingComma)

/-- Results of the two readers. -/
inductive Alike (k : Cut) (Q : α → Cursor → Cursor → Prop) :
    Except Fault α × Cursor → Except Fault α × Cursor → Prop where
  | value {a : α} {c d : Cursor} (cursors : Q a c d) : k.Alike Q (.ok a, c) (.ok a, d)
  | fault {fault fault' : Fault} {c d : Cursor}
      (same : k.SameProblem fault.problem fault'.problem) :
      k.Alike Q (.error fault, c) (.error fault', d)
  | struck {fault : Fault} {text : String} {c : Cursor} {result : Except Fault α × Cursor}
      (failed : k.failure = some text) (told : fault.problem = .deviceFailure text) :
      k.Alike Q (.error fault, c) result

/-- From cursors that `P` relates, the two readers come to the same value with cursors that `Q`
relates, or to the same problem, unless the device fails. -/
def InStep (k : Cut) (P : Cursor → Cursor → Prop) (r r' : Reader α)
    (Q : α → Cursor → Cursor → Prop) : Prop :=
  ∀ c d, P c d → k.Alike Q (r c) (r' d)

/-- A reader that goes no way back. -/
def Keeps (k : Cut) (r : Reader α) : Prop :=
  ∀ n, k.InStep (k.Beside n) r r fun _ => k.Beside n

/-- A reader that takes at least one byte. -/
def Shortens (k : Cut) (r : Reader α) : Prop :=
  ∀ n, k.InStep (k.Beside n) r r fun _ => k.Beside (n - 1)

/-- Cursors beside each other are so with a larger bound. -/
theorem Beside.mono {c d : Cursor} (h : k.Beside n c d) (bound : n ≤ m) : k.Beside m c d :=
  { h with length := by have := h.length; omega }

/-! ### Rules for any reader -/

variable {P P' : Cursor → Cursor → Prop} {Q Q' : α → Cursor → Cursor → Prop}
  {R : β → Cursor → Cursor → Prop} {r r' : Reader α} {f g : α → Reader β}

/-- Outcomes that are alike are so under a weaker relation of the cursors behind them. -/
theorem Alike.mono {x y : Except Fault α × Cursor} (h : k.Alike Q x y)
    (post : ∀ a c d, Q a c d → Q' a c d) : k.Alike Q' x y := by
  cases h with
  | value cursors => exact .value (post _ _ _ cursors)
  | fault same => exact .fault same
  | struck failed told => exact .struck failed told

/-- Readers in step are so from fewer pairs of cursors, and to more. -/
theorem InStep.mono (h : k.InStep P r r' Q) (pre : ∀ c d, P' c d → P c d)
    (post : ∀ a c d, Q a c d → Q' a c d) : k.InStep P' r r' Q' :=
  fun c d hp => (h c d (pre c d hp)).mono post

/-- Readers in step are so from fewer pairs of cursors. -/
theorem InStep.pre (h : k.InStep P r r' Q) (pre : ∀ c d, P' c d → P c d) :
    k.InStep P' r r' Q :=
  h.mono pre fun _ _ _ => id

/-- Readers that stay within a bound stay within a larger one. -/
theorem InStep.within (h : k.InStep P r r' fun _ => k.Beside n) (bound : n ≤ m) :
    k.InStep P r r' fun _ => k.Beside m :=
  h.mono (fun _ _ => id) fun _ _ _ beside => beside.mono bound

/-- Readers that take a byte stay within the bound from before. -/
theorem InStep.shorter (h : k.InStep P r r' fun _ => k.Beside (n - 1)) :
    k.InStep P r r' fun _ => k.Beside n :=
  h.within (Nat.sub_le n 1)

/-- Readers in step are so, too, where the next byte has been seen. -/
theorem InStep.looking {b : Option UInt8} (h : k.InStep (k.Beside n) r r' Q) :
    k.InStep (k.Looking n b) r r' Q :=
  h.pre fun _ _ looking => looking.toBeside

/-- What follows a byte that `next` has read. -/
theorem InStep.passed {b : UInt8} (h : k.InStep (k.Beside (n - 1)) r r' Q) :
    k.InStep (fun c d => (some b).isSome → k.Beside (n - 1) c d) r r' Q :=
  h.pre fun _ _ passed => passed rfl

/-- A value is the same in both documents. -/
theorem inStep_pure {a : α} (h : ∀ c d, P c d → Q a c d) : k.InStep P (pure a) (pure a) Q :=
  fun c d hp => .value (h c d hp)

/-- A value takes nothing from either document. -/
theorem inStep_return {a : α} : k.InStep P (pure a) (pure a) fun _ => P :=
  inStep_pure fun _ _ => id

/-- Readers in step may follow one another. -/
theorem InStep.bind (first : k.InStep P r r' Q) (next : ∀ a, k.InStep (Q a) (f a) (g a) R) :
    k.InStep P (r >>= f) (r' >>= g) R := by
  intro c d h
  rw [Reader.bind_apply, Reader.bind_apply]
  cases hx : r c; cases hy : r' d
  have step := first c d h
  rw [hx, hy] at step
  cases step with
  | value cursors => exact next _ _ _ cursors
  | fault same => exact .fault same
  | struck failed told => exact .struck failed told

/-- Results of readers in step may be changed in the same way. -/
theorem InStep.map (use : α → β) (h : k.InStep P r r' fun a => R (use a)) :
    k.InStep P (use <$> r) (use <$> r') R := by
  rw [map_eq_pure_bind, map_eq_pure_bind]
  exact h.bind fun a => inStep_pure fun _ _ => id

/-- Readers that look at the cursor are in step if they are so at cursors beside each other. -/
theorem InStep.get {f g : Cursor → Reader α} (h : ∀ c d, P c d → k.Alike Q (f c c) (g d d)) :
    k.InStep P (get >>= f) (get >>= g) Q :=
  h

/-- A step that is made in one case only, and what follows in both. -/
theorem InStep.ite_bind {condition : Prop} [Decidable condition] {M : Cursor → Cursor → Prop}
    {f g : Unit → Reader α} {r r' : Reader Unit}
    (first : condition → k.InStep P r r' fun _ => M) (still : ∀ c d, P c d → M c d)
    (next : k.InStep M (f ()) (g ()) Q) :
    k.InStep P (if condition then r >>= f else f ()) (if condition then r' >>= g else g ()) Q := by
  split
  case isTrue holds => exact (first holds).bind fun _ => next
  case isFalse => exact next.pre still

/-- Where no cursors are, readers are in step. -/
theorem inStep_absurd : k.InStep (fun _ _ => False) r r' Q :=
  fun _ _ h => h.elim

/-! ### Readers of bytes -/

/-- Giving up for a problem of the document is the same in both. -/
theorem inStep_giveUp {problem : Problem} (own : problem.isFailure = false) :
    k.InStep P (Reader.giveUp problem) (Reader.giveUp problem) Q :=
  fun _ _ _ => .fault ⟨own, .inl rfl⟩

/-- Failing here for a problem of the document is the same in both. -/
theorem inStep_failHere {problem : Problem} (own : problem.isFailure = false) :
    k.InStep P (Reader.failHere problem) (Reader.failHere problem) Q :=
  fun _ _ _ => .fault ⟨own, .inl rfl⟩

/-- Failing at the next byte for a problem of the document is the same in both. -/
theorem inStep_failThere {problem : Problem} (own : problem.isFailure = false) :
    k.InStep P (Reader.failThere problem) (Reader.failThere problem) Q :=
  fun _ _ _ => .fault ⟨own, .inl rfl⟩

/-- What has no position yet gets one: the problem stays. -/
theorem InStep.located (h : k.InStep P r r' Q) :
    k.InStep P (Reader.located r) (Reader.located r') Q := by
  intro c d hp
  have step := h c d hp
  unfold Reader.located
  generalize r c = x at step ⊢
  generalize r' d = y at step ⊢
  cases step with
  | value cursors => exact .value cursors
  | @fault fault fault' _ _ same =>
    rcases fault with ⟨problem, _ | position⟩ <;> rcases fault' with ⟨problem', _ | position'⟩ <;>
      exact .fault same
  | @struck fault _ _ _ failed told =>
    rcases fault with ⟨problem, _ | position⟩ <;> exact .struck failed told

/-- What is read behind a fault does not change it. -/
theorem InStep.followedBy {closing : Reader Unit} {after : Cursor → Cursor → Prop}
    (h : k.InStep P r r' Q)
    (close : ∀ a, k.InStep (Q a) closing closing fun _ => after) :
    k.InStep P (Reader.followedBy r closing) (Reader.followedBy r' closing) fun _ => after := by
  intro c d hp
  have step := h c d hp
  unfold Reader.followedBy
  generalize r c = x at step ⊢
  generalize r' d = y at step ⊢
  cases step with
  | fault same => exact .fault same
  | struck failed told => exact .struck failed told
  | @value a c' d' cursors =>
    have step := close a c' d' cursors
    dsimp only
    generalize closing c' = x at step ⊢
    generalize closing d' = y at step ⊢
    cases step with
    | value cursors => exact .value cursors
    | fault same => exact .fault same
    | struck failed told => exact .struck failed told

/-- Either the device fails, or both readers see the same. -/
theorem Beside.peek {c d : Cursor} (h : k.Beside n c d) :
    (∃ text, k.failure = some text ∧ c.rest = [] ∧
      Reader.peek c = (.error ⟨.deviceFailure text, none⟩, c)) ∨
    ∃ b c' d', Reader.peek c = (.ok b, c') ∧ Reader.peek d = (.ok b, d') ∧
      k.Looking n b c' d' := by
  cases hc : c.rest with
  | cons b rest =>
    have hd : d.rest = b :: (rest ++ k.more) := by rw [h.rest, hc]; rfl
    obtain ⟨taken, peeked⟩ := Reader.peek_cons hc
    obtain ⟨taken', peeked'⟩ := Reader.peek_cons hd
    exact .inr ⟨_, _, _, peeked, peeked',
      ⟨h.rest, h.cut, h.uncut, h.length⟩, by simp [hc], by simp⟩
  | nil =>
    cases hf : k.failure with
    | some text => exact .inl ⟨text, rfl, rfl, Reader.peek_broken hc (hf ▸ h.cut)⟩
    | none =>
      have hd : d.rest = [] := by rw [h.rest, hc, k.whole hf]; rfl
      have ended := Reader.peek_nil hc (by simp [h.cut, hf])
      have ended' := Reader.peek_nil hd (by simp [h.uncut])
      exact .inr ⟨_, _, _, ended, ended', h, by simp [hc], fun _ => hf⟩

/-- Looking at the next byte leaves cursors beside each other that look at the same byte. -/
theorem inStep_peek : k.InStep (k.Beside n) Reader.peek Reader.peek (k.Looking n) := by
  intro c d h
  obtain ⟨text, failed, -, struck⟩ | ⟨b, c', d', peeked, peeked', looking⟩ := h.peek
  · rw [struck]
    exact .struck failed rfl
  · rw [peeked, peeked']
    exact .value looking

/-- Cursors that look at the same byte may both take it. -/
theorem Looking.advance {b : UInt8} {c d : Cursor} (h : k.Looking n (some b) c d) :
    k.Beside (n - 1) c.advance d.advance := by
  obtain ⟨rest, hc⟩ := List.head?_eq_some_iff.mp h.head
  have hd : d.rest = b :: (rest ++ k.more) := by rw [h.rest, hc]; rfl
  have length := h.length
  rw [hc] at length
  simp only [Cursor.advance, hc, hd]
  exact ⟨rfl, h.cut, h.uncut, by simp at length ⊢; omega⟩

/-- Taking a byte that has been seen is done in step. -/
theorem inStep_advance {b : UInt8} :
    k.InStep (k.Looking n (some b)) Reader.advance Reader.advance fun _ => k.Beside (n - 1) :=
  fun _ _ h => .value h.advance

/-- Taking the next byte is done in step, and makes the rest shorter if there is one. -/
theorem inStep_next : k.InStep (k.Beside n) Reader.next Reader.next
    fun b c d => b.isSome → k.Beside (n - 1) c d := by
  unfold Reader.next
  refine inStep_peek.bind fun b => ?_
  intro c d h
  refine .value fun some => ?_
  obtain ⟨b, rfl⟩ := Option.isSome_iff_exists.mp some
  exact h.advance

/-- Cursors beside each other may both skip bytes, provided that the shorter document is not cut
within them. -/
theorem Beside.advanceWhile {p : UInt8 → Bool} {c d : Cursor} (h : k.Beside n c d)
    (uncut : k.failure ≠ none → c.rest.dropWhile p ≠ []) :
    k.Beside n (c.advanceWhile p) (d.advanceWhile p) where
  rest := by
    change d.rest.dropWhile p = c.rest.dropWhile p ++ k.more
    rw [h.rest]
    cases hf : k.failure with
    | none => simp [k.whole hf]
    | some text => simp [List.dropWhile_append, uncut (by simp [hf])]
  cut := h.cut
  uncut := h.uncut
  length := Nat.lt_of_le_of_lt (List.dropWhile_suffix p).length_le h.length

/-- A run of bytes of one class that the break cuts off may go on behind it, and then the device
fails; otherwise it ends at the same place of both documents. -/
theorem Beside.peekBehind {p : UInt8 → Bool} {c d : Cursor} (h : k.Beside n c d) :
    (∃ text, k.failure = some text ∧ c.rest.dropWhile p = [] ∧
      Reader.peekBehind p c = (.error ⟨.deviceFailure text, none⟩, c.advanceWhile p)) ∨
    d.rest.takeWhile p = c.rest.takeWhile p ∧
      ∃ b c' d', Reader.peekBehind p c = (.ok b, c') ∧ Reader.peekBehind p d = (.ok b, d') ∧
        k.Looking n b c' d' := by
  by_cases uncut : k.failure ≠ none → c.rest.dropWhile p ≠ []
  · have behind := h.advanceWhile uncut
    have left : d.rest.dropWhile p = c.rest.dropWhile p ++ k.more := behind.rest
    have passed : d.rest.takeWhile p = c.rest.takeWhile p := by
      rw [← List.append_left_inj (d.rest.dropWhile p), List.takeWhile_append_dropWhile, left,
        ← List.append_assoc, List.takeWhile_append_dropWhile, h.rest]
    obtain ⟨text, failed, nothing, struck⟩ | seen := behind.peek
    · exact .inl ⟨text, failed, nothing, struck⟩
    · exact .inr ⟨passed, seen⟩
  · obtain ⟨failed, passed⟩ : k.failure ≠ none ∧ c.rest.dropWhile p = [] := by simpa using uncut
    obtain ⟨text, failed⟩ := Option.ne_none_iff_exists'.mp failed
    exact .inl ⟨text, failed, passed, Reader.peek_broken passed (failed ▸ h.cut)⟩

/-- Looking at the byte behind skipped ones is done in step. -/
theorem inStep_peekBehind {p : UInt8 → Bool} :
    k.InStep (k.Beside n) (Reader.peekBehind p) (Reader.peekBehind p) (k.Looking n) := by
  intro c d h
  obtain ⟨text, failed, -, struck⟩ | ⟨-, b, c', d', peeked, peeked', looking⟩ :=
    h.peekBehind (p := p)
  · rw [struck]
    exact .struck failed rfl
  · rw [peeked, peeked']
    exact .value looking

/-- Looking at the next byte that is no blank is done in step. -/
theorem inStep_peekToken :
    k.InStep (k.Beside n) Reader.peekToken Reader.peekToken (k.Looking n) :=
  inStep_peekBehind

/-- The bytes that are left bound the steps of a loop, in both documents. -/
theorem InStep.remaining {f g : Nat → Reader α}
    (h : ∀ m fuel fuel', m ≤ fuel + 1 → m ≤ fuel' + 1 →
      k.InStep (k.Beside m) (f fuel) (g fuel') fun _ => k.Beside m) :
    k.InStep (k.Beside n) (Reader.remaining >>= f) (Reader.remaining >>= g)
      fun _ => k.Beside n := by
  intro c d beside
  have longer : c.rest.length + 1 ≤ d.rest.length + 1 := by simp [beside.rest]
  have step := h (c.rest.length + 1) c.rest.length d.rest.length (Nat.le_refl _) longer c d
    { beside with length := Nat.lt_succ_self _ }
  exact step.mono fun _ _ _ later => later.mono beside.length

/-- The letters of a word are taken in step. -/
theorem inStep_expectWord (word : List Char) :
    k.InStep (k.Beside n) (Reader.expectWord word) (Reader.expectWord word)
      fun _ => k.Beside n := by
  induction word generalizing n with
  | nil => exact inStep_return
  | cons c rest ih =>
    refine inStep_next.bind fun b => ?_
    cases b with
    | none => exact inStep_failHere rfl
    | some b =>
      dsimp only
      split
      · exact ih.shorter.passed
      · exact inStep_failHere rfl

/-- The rest of a word behind its first letter, and what it stands for. -/
theorem inStep_word {b : UInt8} {a : α} (rest : List Char) :
    k.InStep (k.Looking n (some b)) (do Reader.advance; Reader.expectWord rest; return a)
      (do Reader.advance; Reader.expectWord rest; return a) fun _ => k.Beside (n - 1) :=
  inStep_advance.bind fun _ => (inStep_expectWord rest).bind fun _ => inStep_return

/-- A loop whose steps take at least one byte each does not run out of steps: it goes on in step
with more of them. -/
theorem inStep_loop {σ : Type} (loop : Nat → σ → Reader α)
    (step : ∀ n fuel fuel',
      (∀ s, k.InStep (k.Beside (n - 1)) (loop fuel s) (loop fuel' s) fun _ => k.Beside (n - 1)) →
      ∀ s, k.InStep (k.Beside n) (loop (fuel + 1) s) (loop (fuel' + 1) s) fun _ => k.Beside n)
    (fuel fuel' : Nat) (enough : n ≤ fuel) (enough' : n ≤ fuel') (s : σ) :
    k.InStep (k.Beside n) (loop fuel s) (loop fuel' s) fun _ => k.Beside n := by
  -- Fewer than 0 bytes are left nowhere, so neither loop gets to a step that is missing.
  have nothing (n : Nat) (r r' : Reader α) (h : n = 0) :
      k.InStep (k.Beside n) r r' fun _ => k.Beside n :=
    fun _ _ beside => absurd beside.length (by omega)
  induction fuel generalizing n fuel' s with
  | zero => exact nothing n _ _ (by omega)
  | succ fuel ih =>
    cases fuel' with
    | zero => exact nothing n _ _ (by omega)
    | succ fuel' => exact step n fuel fuel' (ih fuel' (by omega) (by omega)) s

end Cut

end AbiBindings.Json
