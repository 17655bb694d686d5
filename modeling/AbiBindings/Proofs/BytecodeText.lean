import AbiBindings.Bytecode
import AbiBindings.Proofs.Trimming
import AbiBindings.Proofs.Utf8Decoding

/-!
# Compiled code is kept in one form

Compiled code comes as bytes with anything around it and in it. What is kept of the bytes is a text
without blanks at its ends, or nothing if there are only blanks. That form is reached in one step:
to read what is kept changes nothing, nor do ASCII blanks around the bytes
(`code_is_kept_in_one_form`), although the last bytes may begin a character that they do not end.
-/

set_option autoImplicit false

namespace AbiBindings.Bytecode

open Text Utf8

/-! ## Code in a text -/

/-- Code that is given as text is kept without the blanks around it, if anything is left. -/
theorem text_ofText_eq_some_iff {s t : String} :
    (ofText s).text = some t ↔ t = trim s ∧ t ≠ "" := by
  unfold ofText
  dsimp only
  split
  · rename_i hempty
    simp [notProvided, hempty]
  · rename_i hne
    constructor
    · rintro ⟨⟩
      exact ⟨rfl, hne⟩
    · rintro ⟨rfl, -⟩
      rfl

/-- No code is provided exactly by a text of blanks. -/
theorem isNotProvided_ofText_iff {s : String} :
    (ofText s).isNotProvided ↔ ∀ c ∈ s.toList, isBlank c := by
  rw [← trimChars_eq_nil_iff, ← toList_trim, String.toList_eq_nil_iff]
  unfold ofText
  dsimp only
  split <;> simp [isNotProvided, notProvided, *]

/-- Code depends on its text without the blanks around it alone. -/
theorem ofText_congr {s t : String} (h : trimChars s.toList = trimChars t.toList) :
    ofText s = ofText t := by
  rw [ofText, ofText, trim, trim, h]

/-- The code that is kept of a text is its own code. -/
theorem ofText_of_text {s t : String} (h : (ofText s).text = some t) : ofText t = ofText s := by
  obtain ⟨rfl, -⟩ := text_ofText_eq_some_iff.1 h
  exact ofText_congr (by rw [toList_trim, trimChars_trimChars])

/-! ## Code in bytes -/

/-- Whether a byte is one of the blanks among the bytes below 128: a space, a tabulator, or one of
the four that end a line or a page. -/
def isAsciiBlank (b : UInt8) : Bool :=
  b == 0x20 || (0x09 ≤ b && b ≤ 0x0D)

/-- Whether a text is what is kept of bytes: the characters that stand for the bytes, without the
blanks at their ends, if anything remains. -/
structure IsKept (bytes : List UInt8) (s : String) : Prop where
  nonempty : s ≠ ""
  head : ∀ c ∈ s.toList.head?, ¬ isBlank c
  last : ∀ c ∈ s.toList.getLast?, ¬ isBlank c
  surrounded : ∃ front back, (∀ c ∈ front, isBlank c) ∧ (∀ c ∈ back, isBlank c) ∧
    Decodes bytes (front ++ s.toList ++ back)

/-- The text that is kept of code that is given as bytes. -/
theorem text_ofBytes_eq_some_iff {bytes : List UInt8} {s : String} :
    (ofBytes bytes).text = some s ↔ IsKept bytes s := by
  rw [ofBytes, text_ofText_eq_some_iff, ← String.toList_inj, toList_trim, textLossy,
    String.toList_ofList]
  constructor
  · rintro ⟨htext, hne⟩
    obtain ⟨front, back, hfront, hback, hsurrounded⟩ := exists_surrounded (decodeLossy bytes)
    rw [← htext] at hsurrounded
    refine ⟨hne, ?_, ?_, front, back, hfront, hback, decodes_iff.2 hsurrounded⟩
    · intro c hc
      rw [htext] at hc
      exact not_isBlank_of_mem_head?_trimChars hc
    · intro c hc
      rw [htext] at hc
      exact not_isBlank_of_mem_getLast?_trimChars hc
  · rintro ⟨hne, hhead, hlast, front, back, hfront, hback, hdecodes⟩
    rw [decodes_iff.1 hdecodes, trimChars_surrounded hfront hback, trimChars_eq_self hhead hlast]
    exact ⟨rfl, hne⟩

/-- The bytes of the blanks. -/
theorem toNat_of_isAsciiBlank {b : UInt8} (h : isAsciiBlank b) :
    b.toNat = 0x20 ∨ 0x09 ≤ b.toNat ∧ b.toNat ≤ 0x0D := by
  simpa [isAsciiBlank, UInt8.le_iff_toNat_le, ← UInt8.toNat_inj] using h

/-- Bytes of blanks are bytes of ASCII. -/
theorem lt_of_isAsciiBlank {bytes : List UInt8} (h : ∀ b ∈ bytes, isAsciiBlank b) :
    ∀ b ∈ bytes, b < 0x80 := by
  intro b hb
  have hcode := toNat_of_isAsciiBlank (h b hb)
  rw [UInt8.lt_iff_toNat_lt]
  simp
  omega

/-- Bytes of blanks are decoded as blanks. -/
theorem isBlank_of_isAsciiBlank {bytes : List UInt8} (h : ∀ b ∈ bytes, isAsciiBlank b) :
    ∀ c ∈ decodeLossy bytes, isBlank c := by
  rw [decodeLossy_ascii (lt_of_isAsciiBlank h)]
  intro c hc
  obtain ⟨b, hb, rfl⟩ := List.mem_map.1 hc
  have hcode := toNat_of_isAsciiBlank (h b hb)
  have hchar : (Char.ofNat b.toNat).toNat = b.toNat := toNat_ofNat_of_valid (by omega)
  simp only [isBlank, hchar, Bool.or_eq_true, Bool.and_eq_true, decide_eq_true_eq, beq_iff_eq]
  omega

/-- A byte of a blank does not continue a character. -/
theorem not_isContinuation_of_isAsciiBlank {bytes : List UInt8} (h : ∀ b ∈ bytes, isAsciiBlank b) :
    ∀ b ∈ bytes.head?, ¬ isContinuation b := by
  intro b hb
  have hcode := toNat_of_isAsciiBlank (h b (List.mem_of_mem_head? hb))
  rw [isContinuation_iff]
  omega

/-- Blanks around bytes do not matter, even behind a character that is cut short. -/
theorem ofBytes_surrounded {before after : List UInt8} (hbefore : ∀ b ∈ before, isAsciiBlank b)
    (hafter : ∀ b ∈ after, isAsciiBlank b) (bytes : List UInt8) :
    ofBytes (before ++ bytes ++ after) = ofBytes bytes := by
  have hdecode : decodeLossy (before ++ bytes ++ after) =
      decodeLossy before ++ decodeLossy bytes ++ decodeLossy after := by
    have hascii := lt_of_isAsciiBlank hbefore
    rw [decodeLossy_append _ (not_isContinuation_of_isAsciiBlank hafter),
      decodeLossy_ascii_append hascii, decodeLossy_ascii hascii]
  refine ofText_congr ?_
  rw [textLossy, textLossy, String.toList_ofList, String.toList_ofList, hdecode]
  exact trimChars_surrounded (isBlank_of_isAsciiBlank hbefore) (isBlank_of_isAsciiBlank hafter) _

/-- What is kept of bytes as compiled code is in one form. Nothing is kept exactly if only blanks
stand for the bytes; otherwise a text that has no blanks at its ends. The bytes of that text are
kept as the same code, the text as well, whether it may be missing or not; and so are the bytes
with ASCII blanks before and behind them. -/
theorem code_is_kept_in_one_form (bytes : List UInt8) :
    ((ofBytes bytes).isNotProvided ↔ ∀ c ∈ decodeLossy bytes, isBlank c) ∧
    (∀ s, (ofBytes bytes).text = some s ↔ IsKept bytes s) ∧
    ((ofBytes bytes).isNotProvided ∨ ∃ s, IsKept bytes s ∧
      ofBytes s.toUTF8.data.toList = ofBytes bytes ∧ ofText s = ofBytes bytes ∧
      ofOption (some s) = ofBytes bytes) ∧
    ∀ before after, (∀ b ∈ before ++ after, isAsciiBlank b) →
      ofBytes (before ++ bytes ++ after) = ofBytes bytes := by
  refine ⟨?_, fun s => text_ofBytes_eq_some_iff, ?_, fun before after h => ?_⟩
  · rw [ofBytes, isNotProvided_ofText_iff, textLossy, String.toList_ofList]
  · cases htext : (ofBytes bytes).text with
    | none => exact .inl (by rw [isNotProvided, htext]; rfl)
    | some s =>
      have hagain : ofText s = ofBytes bytes := ofText_of_text htext
      refine .inr ⟨s, text_ofBytes_eq_some_iff.1 htext, ?_, hagain, hagain⟩
      rw [ofBytes, textLossy_toUTF8, hagain]
  · obtain ⟨hbefore, hafter⟩ := List.forall_mem_append.1 h
    exact ofBytes_surrounded hbefore hafter bytes

/-- The bytes of two blanks, a letter, and a character that is cut short. -/
def cutBytes : List UInt8 := [0x20, 0xC2, 0xA0, 0x61, 0xE2, 0x82]

/-- The replacement character for what is cut short is kept, with ASCII blanks around the bytes or
without them. -/
theorem code_is_kept_in_one_form_cut :
    (ofBytes cutBytes).text = some "a\uFFFD" ∧
      (ofBytes ([0x0D, 0x0A] ++ cutBytes ++ [0x20, 0x0B])).text = some "a\uFFFD" := by
  have hcut : (ofBytes cutBytes).text = some "a\uFFFD" := by decide +kernel
  have hblanks : ∀ b ∈ [0x0D, 0x0A] ++ [0x20, 0x0B], isAsciiBlank b := by simp [isAsciiBlank]
  obtain ⟨-, -, -, hsurrounded⟩ := code_is_kept_in_one_form cutBytes
  exact ⟨hcut, by rw [hsurrounded [0x0D, 0x0A] [0x20, 0x0B] hblanks, hcut]⟩

end AbiBindings.Bytecode
