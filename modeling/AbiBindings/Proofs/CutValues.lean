import AbiBindings.Json.Structure
import AbiBindings.Proofs.CutScalars

/-!
# Values of a document that is cut short

The readers of values go over both documents in step. There is one place where the failure of a
device goes unseen: behind a comma that ends an array too early.
-/

set_option autoImplicit false

namespace AbiBindings.Json

namespace Cut

open Reader

variable {k : Cut} {α : Type} {n : Nat}

/-! ### Values that are passed over -/

/-- A colon is read in step. -/
theorem keeps_colon : k.Keeps colon := by
  intro n
  unfold colon
  refine inStep_peekToken.bind fun b => ?_
  cases b with
  | none => exact inStep_failThere rfl
  | some b =>
    dsimp only
    split
    · exact inStep_advance.shorter
    · exact inStep_failThere rfl

/-- The front of a value is skipped in step, and has a byte at least. -/
theorem shortens_skipFront : k.Shortens skipFront := by
  intro n
  unfold skipFront
  refine inStep_peekToken.bind fun b => ?_
  cases b with
  | none => exact inStep_failThere rfl
  | some b =>
    dsimp only
    split
    · exact inStep_word _
    split
    · exact inStep_word _
    split
    · exact inStep_word _
    split
    · exact inStep_advance.bind fun _ => (shortens_skipNumber _).shorter.bind fun _ => inStep_return
    split
    · exact (shortens_skipNumber n).looking.bind fun _ => inStep_return
    split
    · exact inStep_advance.bind fun _ => (keeps_skipString _).bind fun _ => inStep_return
    split
    · exact inStep_advance.bind fun _ => inStep_return
    split
    · exact inStep_advance.bind fun _ => inStep_return
    · exact inStep_failThere rfl

/-- A key is skipped in step. -/
theorem keeps_skipKey : k.Keeps skipKey := by
  intro n
  have tail : k.InStep (k.Beside n) (skipString >>= fun _ => colon) (skipString >>= fun _ => colon)
      fun _ => k.Beside n :=
    (keeps_skipString n).bind fun _ => keeps_colon n
  simp only [skipKey]
  refine inStep_peekToken.bind fun b => ?_
  cases b with
  | none => exact InStep.bind (inStep_failThere rfl) fun _ => inStep_absurd
  | some b =>
    dsimp only
    split
    · exact inStep_advance.shorter.bind fun _ => tail
    · exact InStep.bind (inStep_failThere rfl) fun _ => inStep_absurd

/-- The brackets that close behind a value are skipped in step. -/
theorem keeps_skipClosings (behindValue : Bool) (frames : List Frame) :
    k.Keeps (skipClosings behindValue frames) := by
  intro n
  induction frames generalizing behindValue n with
  | nil => exact inStep_return
  | cons frame outer ih =>
    simp only [skipClosings]
    refine inStep_peekToken.bind fun b => ?_
    cases b with
    | none => exact inStep_failThere (by cases frame <;> rfl)
    | some b =>
      dsimp only
      split
      · exact inStep_advance.shorter.bind fun _ => inStep_return
      split
      · exact inStep_advance.shorter.bind fun _ => ih true n
      split
      · exact inStep_failThere (by cases frame <;> rfl)
      · exact inStep_return.looking

/-- Nested values are skipped in step. -/
theorem inStep_skipValues {fuel fuel' : Nat} (enough : n ≤ fuel) (enough' : n ≤ fuel')
    (outer : List Frame) :
    k.InStep (k.Beside n) (skipValues fuel outer) (skipValues fuel' outer) fun _ => k.Beside n := by
  refine inStep_loop _ (fun n fuel fuel' ih outer => ?_) fuel fuel' enough enough' outer
  simp only [skipValues]
  refine ((shortens_skipFront n).bind fun opened => ?_).shorter
  refine (keeps_skipClosings _ _ _).bind fun frames => ?_
  match frames with
  | [] => exact inStep_return
  | .array :: rest => exact ih _
  | .object :: rest => exact (keeps_skipKey _).bind fun _ => ih _

/-- A value is skipped in step. -/
theorem keeps_skipValue : k.Keeps skipValue :=
  fun _ => InStep.remaining fun _ _ _ enough enough' => inStep_skipValues enough enough' []

/-! ### Values of a known kind -/

/-- A value is described in step. -/
theorem keeps_describe : k.Keeps describe := by
  intro n
  unfold describe
  refine inStep_peek.bind fun b => ?_
  cases b with
  | none => exact inStep_failThere rfl
  | some b =>
    dsimp only
    split
    · exact (inStep_word _).shorter
    split
    · exact (inStep_word _).shorter
    split
    · exact (inStep_word _).shorter
    split
    · exact inStep_advance.shorter.bind fun _ => (keeps_readNumber n).bind fun _ => inStep_return
    split
    · exact (keeps_readNumber n).looking.bind fun _ => inStep_return
    split
    · exact inStep_advance.shorter.bind fun _ => (keeps_readString n).bind fun _ => inStep_return
    split
    · exact inStep_return.looking
    split
    · exact inStep_return.looking
    · exact inStep_failThere rfl

/-- A value of the wrong kind is the same problem in both documents. -/
theorem inStep_wrongKind {Q : α → Cursor → Cursor → Prop} {b : Option UInt8} (expected : String) :
    k.InStep (k.Looking n b) (wrongKind expected) (wrongKind expected) Q :=
  InStep.located ((keeps_describe n).looking.bind fun _ => inStep_giveUp rfl)

/-- Looking at the first byte of a value is done in step. -/
theorem inStep_peekValue :
    k.InStep (k.Beside n) peekValue peekValue fun b => k.Looking n (some b) := by
  unfold peekValue
  refine inStep_peekToken.bind fun b => ?_
  cases b with
  | none => exact inStep_failThere rfl
  | some b => exact inStep_pure fun _ _ => id

/-- A string that is put to use is read in step. -/
theorem shortens_stringOf {expected : String} {use : String → Reader α}
    (keeps : ∀ s, k.Keeps (use s)) : k.Shortens (stringOf expected use) := by
  intro n
  unfold stringOf
  refine inStep_peekValue.bind fun b => ?_
  split
  · exact inStep_advance.bind fun _ => (keeps_readString _).bind fun s => (keeps s _).located
  · exact inStep_wrongKind expected

/-- A string is read in step. -/
theorem shortens_string : k.Shortens string :=
  shortens_stringOf fun _ _ => inStep_return

/-- A truth value is read in step. -/
theorem shortens_boolean : k.Shortens boolean := by
  intro n
  unfold boolean
  refine inStep_peekValue.bind fun b => ?_
  split
  · exact inStep_word _
  split
  · exact inStep_word _
  · exact inStep_wrongKind _

/-- The value null is read in step. -/
theorem shortens_unit : k.Shortens unit := by
  intro n
  unfold unit
  refine inStep_peekValue.bind fun b => ?_
  split
  · exact inStep_advance.bind fun _ => inStep_expectWord _
  · exact inStep_wrongKind _

/-- A value that may be null is read in step. -/
theorem shortens_optional {value : Reader α} (h : k.Shortens value) :
    k.Shortens (Reader.optional value) := by
  intro n
  unfold Reader.optional
  refine inStep_peekToken.bind fun b => ?_
  split
  case isTrue null =>
    obtain rfl : b = some (code 'n') := by simpa using null
    exact inStep_word _
  case isFalse => exact (h n).looking.bind fun _ => inStep_return

/-- Entering an array or object is done in step. -/
theorem inStep_enter {b : UInt8} (levels : Nat) :
    k.InStep (k.Looking n (some b)) (enter levels) (enter levels) fun _ => k.Beside (n - 1) := by
  unfold enter
  split
  · exact inStep_failThere rfl
  · exact inStep_advance

/-- Looking for a bracket does not fail. -/
theorem bracketAhead_value (c : Cursor) :
    ∃ bracket c', bracketAhead c = (.ok bracket, c') := by
  unfold bracketAhead
  rcases peekToken c with ⟨_ | b, c'⟩ <;> exact ⟨_, _, rfl⟩

/-- Behind a comma that ends an array too early a device may fail unseen: the byte that is asked
for there only tells two faults apart. -/
theorem inStep_bracketAhead {Q : α → Cursor → Cursor → Prop} :
    k.InStep (k.Beside n)
      (do if ← bracketAhead then failThere .trailingComma else failThere .trailingCharacters)
      (do if ← bracketAhead then failThere .trailingComma else failThere .trailingCharacters)
      Q := by
  intro c d h
  rw [bind_apply, bind_apply]
  obtain ⟨text, failed, passed, struck⟩ | ⟨-, b, c', d', peeked, peeked', -⟩ :=
    h.peekBehind (p := isBlank)
  · have unseen : bracketAhead c = (.ok false, c.advanceWhile isBlank) := by
      rw [bracketAhead, peekToken, struck]
    obtain ⟨bracket, d', seen⟩ := bracketAhead_value d
    rw [unseen, seen]
    cases bracket with
    | false => exact .fault ⟨rfl, .inl rfl⟩
    | true =>
      refine .fault ⟨rfl, .inr ⟨fun nothing => ?_, rfl, rfl⟩⟩
      have ended : peekToken d = (.ok none, d.advanceWhile isBlank) := by
        apply peek_nil
        · simpa [Cursor.advanceWhile, h.rest, nothing] using passed
        · simp [Cursor.advanceWhile, h.uncut]
      rw [bracketAhead, ended] at seen
      cases seen
  · rw [bracketAhead, bracketAhead, peekToken, peeked, peeked']
    dsimp only
    split
    · exact .fault ⟨rfl, .inl rfl⟩
    · exact .fault ⟨rfl, .inl rfl⟩

/-- The end of an array is read in step. -/
theorem keeps_endArray : k.Keeps endArray := by
  intro n
  unfold endArray
  refine inStep_peekToken.bind fun b => ?_
  cases b with
  | none => exact inStep_failThere rfl
  | some b =>
    dsimp only
    split
    · exact inStep_advance.shorter
    split
    · exact inStep_advance.bind fun _ => inStep_bracketAhead
    · exact inStep_failThere rfl

/-- The end of an object is read in step. -/
theorem keeps_endObject : k.Keeps endObject := by
  intro n
  unfold endObject
  refine inStep_peekToken.bind fun b => ?_
  cases b with
  | none => exact inStep_failThere rfl
  | some b =>
    dsimp only
    split
    · exact inStep_advance.shorter
    split
    · exact inStep_failThere rfl
    · exact inStep_failThere rfl

/-- Whether an array has another element is found out in step. -/
theorem keeps_hasElement (first : Bool) : k.Keeps (hasElement first) := by
  intro n
  unfold hasElement
  refine inStep_peekToken.bind fun b => ?_
  cases b with
  | none => exact inStep_failThere rfl
  | some b =>
    dsimp only
    split
    · exact inStep_return.looking
    split
    · exact inStep_return.looking
    split
    · refine inStep_advance.shorter.bind fun _ => inStep_peekToken.bind fun b => ?_
      cases b with
      | none => exact inStep_failThere rfl
      | some b =>
        dsimp only
        split
        · exact inStep_failThere rfl
        · exact inStep_return.looking
    · exact inStep_failThere rfl

/-- The places behind a part that may be missing: only a part takes bytes. -/
def Behind (k : Cut) (n : Nat) : Option α → Cursor → Cursor → Prop
  | some _ => k.Beside (n - 1)
  | none => k.Beside n

/-- Behind an element, readers are in step if they are so within the shorter rest. -/
theorem InStep.behind {β : Type} {r r' : Reader β} {Q : β → Cursor → Cursor → Prop} {a : α}
    (h : k.InStep (k.Beside (n - 1)) r r' Q) : k.InStep (k.Behind n (some a)) r r' Q :=
  h

/-- An element is read in step, and makes the rest shorter if there is one. -/
theorem inStep_element {value : Reader α} (first : Bool) (h : k.Shortens value) :
    k.InStep (k.Beside n) (element? first value) (element? first value) (k.Behind n) := by
  unfold element?
  refine (keeps_hasElement first n).bind fun more => ?_
  split
  · exact (h n).bind fun a => inStep_pure fun _ _ => id
  · exact inStep_pure fun _ _ => id

/-- An element that may be missing is read in step. -/
theorem keeps_element {value : Reader α} (first : Bool) (h : k.Shortens value) :
    k.Keeps (element? first value) := by
  intro n
  refine (inStep_element first h).mono (fun _ _ => id) fun a _ _ behind => ?_
  cases a with
  | none => exact behind
  | some a => exact behind.mono (Nat.sub_le n 1)

/-- Another member is seen by the quote of its key. -/
theorem inStep_hasMember (first : Bool) :
    k.InStep (k.Beside n) (hasMember first) (hasMember first) fun more c d =>
      k.Beside n c d ∧ (more = true → ∃ b, k.Looking n (some b) c d) := by
  have quote {b : UInt8} {c d : Cursor} (looking : k.Looking n (some b) c d) (more : Bool) :
      k.Beside n c d ∧ (more = true → ∃ b, k.Looking n (some b) c d) :=
    ⟨looking.toBeside, fun _ => ⟨b, looking⟩⟩
  unfold hasMember
  refine inStep_peekToken.bind fun b => ?_
  cases b with
  | none => exact inStep_failThere rfl
  | some b =>
    dsimp only
    split
    · exact inStep_pure fun _ _ looking => quote looking false
    split
    · split
      · exact inStep_pure fun _ _ looking => quote looking true
      · exact inStep_failThere rfl
    split
    · refine inStep_advance.shorter.bind fun _ => inStep_peekToken.bind fun b => ?_
      cases b with
      | none => exact inStep_failThere rfl
      | some b =>
        dsimp only
        split
        · exact inStep_pure fun _ _ looking => quote looking true
        split
        · exact inStep_failThere rfl
        · exact inStep_failThere rfl
    · exact inStep_failThere rfl

/-- A key is read in step, and makes the rest shorter if there is one. -/
theorem inStep_key (first : Bool) :
    k.InStep (k.Beside n) (key? first) (key? first) (k.Behind n) := by
  unfold key?
  refine (inStep_hasMember first).bind fun more => ?_
  split
  case isTrue another =>
    intro c d ⟨_, quote⟩
    obtain ⟨b, looking⟩ := quote another
    refine InStep.bind inStep_advance (fun _ => ?_) c d looking
    exact (keeps_readString _).bind fun s => inStep_pure fun _ _ => id
  case isFalse => exact inStep_pure fun _ _ h => h.1

/-- The elements of an array are read in step. -/
theorem inStep_elements {value : Reader α} (h : k.Shortens value) {fuel fuel' : Nat}
    (enough : n ≤ fuel) (enough' : n ≤ fuel') (first : Bool) :
    k.InStep (k.Beside n) (elements value fuel first) (elements value fuel' first)
      fun _ => k.Beside n := by
  refine inStep_loop _ (fun n fuel fuel' ih first => ?_) fuel fuel' enough enough' first
  simp only [elements]
  refine (inStep_element first h).bind fun a => ?_
  cases a with
  | none => exact inStep_return
  | some a =>
    refine InStep.behind (InStep.shorter ?_)
    exact (ih false).bind fun _ => inStep_return

/-- An array is read in step. -/
theorem shortens_array {value : Reader α} (levels : Nat) (h : k.Shortens value) :
    k.Shortens (array levels value) := by
  intro n
  unfold array
  refine inStep_peekValue.bind fun b => ?_
  split
  · refine InStep.located ((inStep_enter levels).bind fun _ => ?_)
    refine InStep.followedBy ?_ fun _ => keeps_endArray _
    exact InStep.remaining fun _ _ _ enough enough' => inStep_elements h enough enough' true
  · exact inStep_wrongKind _

/-- A name out of some choices is read in step. -/
theorem shortens_name (choices : List (String × α)) : k.Shortens (name choices) := by
  refine shortens_stringOf fun s n => ?_
  split
  · exact inStep_return
  · exact inStep_giveUp rfl

/-- Whether a name stands ahead is found out in step. -/
theorem keeps_nameAhead : k.Keeps nameAhead := by
  intro n
  unfold nameAhead
  refine inStep_peekToken.bind fun b => ?_
  cases b with
  | none => exact inStep_failThere rfl
  | some b =>
    dsimp only
    split
    · exact inStep_return.looking
    split
    · exact inStep_failThere rfl
    · exact inStep_failThere rfl

/-- A choice is read in step, as a string or as an object with one key. -/
theorem shortens_choice (levels : Nat) (choices : List (String × α)) :
    k.Shortens (choice levels choices) := by
  intro n
  unfold choice
  refine inStep_peekToken.bind fun b => ?_
  cases b with
  | none => exact inStep_failThere rfl
  | some b =>
    dsimp only
    split
    · exact (shortens_name choices n).looking
    split
    · refine (inStep_enter levels).bind fun _ => (keeps_nameAhead _).bind fun _ => ?_
      refine (shortens_name choices _).shorter.bind fun a => (keeps_colon _).bind fun _ => ?_
      refine (shortens_unit _).shorter.bind fun _ => inStep_peekToken.bind fun b => ?_
      cases b with
      | none => exact inStep_failHere rfl
      | some b =>
        dsimp only
        split
        · exact inStep_advance.shorter.bind fun _ => inStep_return
        · exact inStep_failHere rfl
    · exact inStep_failThere rfl

/-- What is known of a member goes over both documents in step, and is refused for its own sake. -/
def KeepsMember {σ : Type} (k : Cut) : Option (Except Problem (Reader σ)) → Prop
  | some (.ok value) => k.Keeps value
  | some (.error problem) => problem.isFailure = false
  | none => True

/-- The members of an object are read in step. -/
theorem inStep_members {σ : Type} {known : σ → String → Option (Except Problem (Reader σ))}
    (knows : ∀ state key, k.KeepsMember (known state key)) {fuel fuel' : Nat}
    (enough : n ≤ fuel) (enough' : n ≤ fuel')
    (first : Bool) (state : σ) :
    k.InStep (k.Beside n) (members known fuel first state) (members known fuel' first state)
      fun _ => k.Beside n := by
  refine inStep_loop (fun fuel (s : Bool × σ) => members known fuel s.1 s.2)
    (fun n fuel fuel' ih s => ?_) fuel fuel' enough enough' (first, state)
  simp only [members]
  refine (inStep_key s.1).bind fun key => ?_
  cases key with
  | none => exact inStep_return
  | some key =>
    refine InStep.behind (InStep.shorter ?_)
    have member := knows s.2 key
    dsimp only
    generalize known s.2 key = what at member ⊢
    match what, member with
    | some (.ok value), keeps =>
      exact (keeps_colon _).bind fun _ => (keeps _).bind fun a => ih (false, a)
    | some (.error problem), own => exact inStep_giveUp own
    | none, _ =>
      exact (keeps_colon _).bind fun _ => (keeps_skipValue _).bind fun _ => ih (false, s.2)

/-- A record is read in step, as an array or as an object. -/
theorem shortens_record {byPosition byName : Reader α} (levels : Nat) (expected : String)
    (position : k.Keeps byPosition) (name : k.Keeps byName) :
    k.Shortens (record levels expected byPosition byName) := by
  intro n
  unfold record
  refine inStep_peekValue.bind fun b => ?_
  split
  · exact InStep.located ((inStep_enter levels).bind fun _ =>
      (position _).followedBy fun _ => keeps_endArray _)
  split
  · exact InStep.located ((inStep_enter levels).bind fun _ =>
      (name _).followedBy fun _ => keeps_endObject _)
  · exact inStep_wrongKind _

/-- A whole document is read only from a device that does not fail: the reader asks for a byte
behind it. -/
theorem inStep_document {value : Reader α} (h : k.Keeps value) :
    k.InStep (k.Beside n) (document value) (document value) fun _ _ _ => k.failure = none := by
  unfold document
  refine (h n).bind fun a => inStep_peekToken.bind fun b => ?_
  cases b with
  | some b => exact inStep_failThere rfl
  | none => exact inStep_pure fun _ _ looking => looking.ended rfl

end Cut

end AbiBindings.Json
