import AbiBindings.Json.NumberReader
import AbiBindings.Json.StringReader
import AbiBindings.Proofs.CutReading

/-!
# Numbers and strings of a document that is cut short

The readers of numbers and strings go over both documents in step. A number that the break cuts off
may go on behind it, so it is read only when the byte behind it is known.
-/

set_option autoImplicit false

namespace AbiBindings.Json

namespace Cut

open Reader

variable {k : Cut} {n : Nat}

/-! ### Numbers -/

section Numbers

variable {positive upwards : Bool} {before exponent : Int} {significand : Nat}

/-- A test that the end of a document fails is passed by a byte. -/
theorem exists_of_test {b : Option UInt8} (test : Option UInt8 → Bool) (nothing : test none = false)
    (h : test b = true) : ∃ byte, b = some byte := by
  cases b with
  | none => simp [nothing] at h
  | some byte => exact ⟨byte, rfl⟩

/-- A sign is a byte. -/
theorem exists_of_sign {b : Option UInt8}
    (h : (b == some (code '+') || b == some (code '-')) = true) : ∃ byte, b = some byte :=
  exists_of_test (fun b => b == some (code '+') || b == some (code '-')) rfl h

/-- A number is assembled from its parts in step. -/
theorem inStep_assemble (exponent : Int) :
    k.InStep (k.Beside n) (assemble positive significand exponent)
      (assemble positive significand exponent) fun _ => k.Beside n := by
  unfold assemble
  dsimp only
  repeat' split
  all_goals first
    | exact inStep_return
    | exact inStep_failHere rfl

/-- The digits of an exponent are read in step. -/
theorem inStep_exponentDigits {fuel fuel' : Nat} (enough : n ≤ fuel) (enough' : n ≤ fuel')
    (exponent : Nat) :
    k.InStep (k.Beside n) (exponentDigits positive significand before upwards fuel exponent)
      (exponentDigits positive significand before upwards fuel' exponent) fun _ => k.Beside n := by
  refine inStep_loop _ (fun n fuel fuel' ih exponent => ?_) fuel fuel' enough enough' exponent
  simp only [exponentDigits]
  refine inStep_peek.bind fun b => ?_
  cases b with
  | none => exact (inStep_assemble _).looking
  | some b =>
    dsimp only
    split
    · refine inStep_advance.bind fun _ => ?_
      split
      · split
        · exact inStep_failHere rfl
        · refine (InStep.bind inStep_peekBehind fun _ => ?_).shorter
          exact inStep_return.looking
      · exact (ih _).shorter
    · exact (inStep_assemble _).looking

/-- An exponent is read in step. -/
theorem inStep_readExponent {b : UInt8} :
    k.InStep (k.Looking n (some b)) (readExponent positive significand before)
      (readExponent positive significand before) fun _ => k.Beside n := by
  simp only [readExponent]
  refine inStep_advance.bind fun _ => inStep_peek.bind fun sign => ?_
  refine InStep.ite_bind (M := k.Beside (n - 1)) (fun plus => ?_)
    (fun _ _ looking => looking.toBeside) (inStep_next.bind fun b => ?_)
  · obtain ⟨b, rfl⟩ := exists_of_sign plus
    exact inStep_advance.shorter
  cases b with
  | none => exact inStep_failHere rfl
  | some b =>
    dsimp only
    split
    · refine (InStep.shorter (InStep.shorter ?_)).passed
      exact InStep.remaining fun m fuel fuel' enough enough' =>
        inStep_exponentDigits enough enough' _
    · exact inStep_failHere rfl

/-- What may follow a fraction is read in step. -/
theorem inStep_afterFraction (exponent : Int) :
    k.InStep (k.Beside n) (afterFraction positive significand exponent)
      (afterFraction positive significand exponent) fun _ => k.Beside n := by
  unfold afterFraction
  refine inStep_peek.bind fun b => ?_
  split
  case isTrue letter =>
    obtain ⟨b, rfl⟩ := exists_of_test isExponentLetter rfl letter
    exact inStep_readExponent
  case isFalse => exact (inStep_assemble _).looking

/-- The digits of a fraction are read in step. -/
theorem inStep_fractionDigits {fuel fuel' : Nat} (enough : n ≤ fuel) (enough' : n ≤ fuel')
    (significand count : Nat) :
    k.InStep (k.Beside n) (fractionDigits positive before fuel significand count)
      (fractionDigits positive before fuel' significand count) fun _ => k.Beside n := by
  refine inStep_loop (fun fuel (s : Nat × Nat) => fractionDigits positive before fuel s.1 s.2)
    (fun n fuel fuel' ih s => ?_) fuel fuel' enough enough' (significand, count)
  simp only [fractionDigits]
  refine inStep_peek.bind fun b => ?_
  cases b with
  | none =>
    dsimp only
    split
    · exact inStep_failThere rfl
    · exact (inStep_afterFraction _).looking
  | some b =>
    dsimp only
    split
    · split
      · exact (inStep_peekBehind.bind fun _ => (inStep_afterFraction _).looking).looking
      · exact inStep_advance.bind fun _ => (ih (_, _)).shorter
    · split
      · exact inStep_failThere rfl
      · exact (inStep_afterFraction _).looking

/-- A fraction is read in step. -/
theorem inStep_readFraction {b : UInt8} :
    k.InStep (k.Looking n (some b)) (readFraction positive significand before)
      (readFraction positive significand before) fun _ => k.Beside n := by
  refine inStep_advance.bind fun _ => InStep.shorter ?_
  exact InStep.remaining fun m fuel fuel' enough enough' =>
    inStep_fractionDigits enough enough' _ _

/-- Digits that the break cuts off may go on behind it; but then the next byte is asked for, and
the device fails. -/
theorem inStep_readLongInteger :
    k.InStep (k.Beside n) (readLongInteger positive significand)
      (readLongInteger positive significand) fun _ => k.Beside n := by
  unfold readLongInteger
  refine InStep.get fun c d h => ?_
  obtain ⟨text, failed, -, struck⟩ | ⟨same, -⟩ := h.peekBehind (p := isDigit)
  · rw [bind_apply, struck]
    exact .struck failed rfl
  · rw [same]
    refine InStep.bind (P := k.Beside n) inStep_peekBehind (fun b => ?_) c d h
    split
    case isTrue point =>
      obtain rfl : b = some (code '.') := by simpa using point
      exact inStep_readFraction
    case isFalse => exact (inStep_afterFraction _).looking

/-- What may follow the integer part of a number is read in step. -/
theorem inStep_afterInteger :
    k.InStep (k.Beside n) (afterInteger positive significand)
      (afterInteger positive significand) fun _ => k.Beside n := by
  unfold afterInteger
  refine inStep_peek.bind fun b => ?_
  split
  case isTrue point =>
    obtain rfl : b = some (code '.') := by simpa using point
    exact inStep_readFraction
  split
  case isTrue letter =>
    obtain ⟨b, rfl⟩ := exists_of_test isExponentLetter rfl letter
    exact inStep_readExponent
  repeat' split
  all_goals exact inStep_return.looking

/-- The digits of the integer part are read in step. -/
theorem inStep_integerDigits {fuel fuel' : Nat} (enough : n ≤ fuel) (enough' : n ≤ fuel')
    (significand : Nat) :
    k.InStep (k.Beside n) (integerDigits positive fuel significand)
      (integerDigits positive fuel' significand) fun _ => k.Beside n := by
  refine inStep_loop _ (fun n fuel fuel' ih significand => ?_) fuel fuel' enough enough' significand
  simp only [integerDigits]
  refine inStep_peek.bind fun b => ?_
  cases b with
  | none => exact inStep_afterInteger.looking
  | some b =>
    dsimp only
    split
    · split
      · exact inStep_readLongInteger.looking
      · exact inStep_advance.bind fun _ => (ih _).shorter
    · exact inStep_afterInteger.looking

/-- A number is read in step. -/
theorem keeps_readNumber : k.Keeps (readNumber positive) := by
  intro n
  unfold readNumber
  refine inStep_next.bind fun b => ?_
  cases b with
  | none => exact inStep_failHere rfl
  | some b =>
    refine InStep.passed (InStep.shorter ?_)
    dsimp only
    split
    · refine inStep_peek.bind fun b => ?_
      split
      · exact inStep_failThere rfl
      · exact inStep_afterInteger.looking
    · split
      · exact InStep.remaining fun m fuel fuel' enough enough' =>
          inStep_integerDigits enough enough' _
      · exact inStep_failHere rfl

/-- Digits are skipped in step. -/
theorem keeps_skipDigits : k.Keeps (do let _ ← peekBehind isDigit) :=
  fun _ => inStep_peekBehind.bind fun _ => inStep_return.looking

/-- An exponent is skipped in step. -/
theorem inStep_skipExponent {b : UInt8} :
    k.InStep (k.Looking n (some b)) skipExponent skipExponent fun _ => k.Beside n := by
  simp only [skipExponent]
  refine inStep_advance.bind fun _ => inStep_peek.bind fun sign => ?_
  refine InStep.ite_bind (M := k.Beside (n - 1)) (fun plus => ?_)
    (fun _ _ looking => looking.toBeside) (inStep_next.bind fun b => ?_)
  · obtain ⟨b, rfl⟩ := exists_of_sign plus
    exact inStep_advance.shorter
  split
  case isTrue digit =>
    obtain ⟨b, rfl⟩ := exists_of_test isDigitByte rfl digit
    exact (keeps_skipDigits _).shorter.shorter.passed
  case isFalse => exact inStep_failHere rfl

/-- A fraction is skipped in step. -/
theorem inStep_skipFraction {b : UInt8} :
    k.InStep (k.Looking n (some b)) skipFraction skipFraction fun _ => k.Beside n := by
  simp only [skipFraction]
  refine inStep_advance.bind fun _ => inStep_peek.bind fun b => ?_
  split
  case isTrue =>
    refine (inStep_peekBehind.bind fun b => InStep.shorter ?_).looking
    split
    case isTrue letter =>
      obtain ⟨b, rfl⟩ := exists_of_test isExponentLetter rfl letter
      exact inStep_skipExponent
    case isFalse => exact inStep_return.looking
  case isFalse => exact inStep_failThere rfl

/-- A number is skipped in step, and has a byte at least. -/
theorem shortens_skipNumber : k.Shortens skipNumber := by
  intro n
  simp only [skipNumber]
  refine inStep_next.bind fun first => ?_
  split
  case isFalse => exact inStep_failHere rfl
  case isTrue digit =>
    obtain ⟨b, rfl⟩ := exists_of_test isDigitByte rfl digit
    refine (inStep_peek.bind fun b => ?_).passed
    refine InStep.ite_bind (M := k.Beside (n - 1)) (fun _ => inStep_failThere rfl)
      (fun _ _ looking => looking.toBeside) (inStep_peekBehind.bind fun behind => ?_)
    split
    case isTrue point =>
      obtain rfl : behind = some (code '.') := by simpa using point
      exact inStep_skipFraction
    split
    case isTrue letter =>
      obtain ⟨b, rfl⟩ := exists_of_test isExponentLetter rfl letter
      exact inStep_skipExponent
    case isFalse => exact inStep_return.looking

end Numbers

/-! ### Strings -/

/-- A byte of a string is read in step. -/
theorem shortens_stringByte : k.Shortens stringByte := by
  intro n
  unfold stringByte
  refine inStep_next.bind fun b => ?_
  cases b with
  | none => exact inStep_failHere rfl
  | some b => exact inStep_pure fun _ _ passed => passed rfl

/-- Looking at a byte of a string is done in step. -/
theorem inStep_peekStringByte :
    k.InStep (k.Beside n) peekStringByte peekStringByte fun b => k.Looking n (some b) := by
  unfold peekStringByte
  refine inStep_peek.bind fun b => ?_
  cases b with
  | none => exact inStep_failHere rfl
  | some b => exact inStep_pure fun _ _ => id

/-- The four digits of an escape are read in step. -/
theorem keeps_hexEscape : k.Keeps hexEscape := by
  have keeps_stringByte : k.Keeps stringByte := fun n => (shortens_stringByte n).shorter
  intro n
  unfold hexEscape
  refine (keeps_stringByte n).bind fun a => (keeps_stringByte n).bind fun b =>
    (keeps_stringByte n).bind fun c => (keeps_stringByte n).bind fun d => ?_
  dsimp only
  split
  · exact inStep_return
  · exact inStep_failHere rfl

/-- A byte of the second half of a pair is read in step. -/
theorem keeps_pairByte (expected : Char) : k.Keeps (pairByte expected) := by
  intro n
  unfold pairByte
  refine inStep_peekStringByte.bind fun b => (inStep_advance.bind fun _ => ?_).shorter
  split
  · exact inStep_return
  · exact inStep_failHere rfl

/-- The code point of an escape is read in step. -/
theorem keeps_codePoint : k.Keeps codePoint := by
  intro n
  unfold codePoint
  refine (keeps_hexEscape n).bind fun first => ?_
  split
  · exact inStep_failHere rfl
  split
  · refine (keeps_pairByte _ n).bind fun _ => (keeps_pairByte _ n).bind fun _ =>
      (keeps_hexEscape n).bind fun second => ?_
    split
    · exact inStep_return
    · exact inStep_failHere rfl
  · exact inStep_return

/-- An escape is read in step. -/
theorem keeps_escape : k.Keeps escape := by
  intro n
  unfold escape
  refine ((shortens_stringByte n).bind fun b => ?_).shorter
  cases shortEscape? b with
  | some c => exact inStep_return
  | none =>
    dsimp only
    split
    · exact keeps_codePoint _
    · exact inStep_failHere rfl

/-- The bytes of a string are read in step. -/
theorem inStep_stringBytes {fuel fuel' : Nat} (enough : n ≤ fuel) (enough' : n ≤ fuel')
    (before : List UInt8) :
    k.InStep (k.Beside n) (stringBytes fuel before) (stringBytes fuel' before)
      fun _ => k.Beside n := by
  refine inStep_loop _ (fun n fuel fuel' ih before => ?_) fuel fuel' enough enough' before
  simp only [stringBytes]
  refine ((shortens_stringByte n).bind fun b => ?_).shorter
  split
  · exact inStep_return
  split
  · exact (keeps_escape _).bind fun c => ih _
  split
  · exact inStep_failHere rfl
  · exact ih _

/-- Strings of both documents are read from bytes, not from text. -/
theorem keeps_readString : k.Keeps readString := by
  intro n
  unfold readString
  refine InStep.remaining fun m fuel fuel' enough enough' => ?_
  refine (inStep_stringBytes enough enough' []).bind fun bytes => InStep.get fun c d h => ?_
  cases Text.Utf8.text? bytes with
  | some s => exact .value h
  | none =>
    rw [h.cut, h.uncut]
    exact .fault ⟨rfl, .inl rfl⟩

/-- An escape is skipped in step. -/
theorem keeps_skipEscape : k.Keeps skipEscape := by
  intro n
  unfold skipEscape
  refine ((shortens_stringByte n).bind fun b => ?_).shorter
  split
  · exact inStep_return
  split
  · exact (keeps_hexEscape _).bind fun _ => inStep_return
  · exact inStep_failHere rfl

/-- The bytes of a string are skipped in step. -/
theorem inStep_skipStringBytes {fuel fuel' : Nat} (enough : n ≤ fuel) (enough' : n ≤ fuel') :
    k.InStep (k.Beside n) (skipStringBytes fuel) (skipStringBytes fuel') fun _ => k.Beside n := by
  refine inStep_loop (fun fuel (_ : Unit) => skipStringBytes fuel)
    (fun n fuel fuel' ih _ => ?_) fuel fuel' enough enough' ()
  simp only [skipStringBytes]
  refine inStep_peekStringByte.bind fun b => ?_
  split
  · exact inStep_advance.shorter
  split
  · exact (inStep_advance.bind fun _ => (keeps_skipEscape _).bind fun _ => ih ()).shorter
  split
  · exact inStep_failHere rfl
  · exact (inStep_advance.bind fun _ => ih ()).shorter

/-- A string is skipped in step. -/
theorem keeps_skipString : k.Keeps skipString :=
  fun _ => InStep.remaining fun _ _ _ enough enough' => inStep_skipStringBytes enough enough'

end Cut

end AbiBindings.Json
