import Mathlib.Data.List.Basic
import Mathlib.Data.List.Induction
import AbiBindings.Text.Numeral

/-!
# Canonical numerals

Numbers are read from the numerals that they are written with, and from no others: a list of
characters is read as a number exactly if it is the decimal text of that number
(`numeral?_eq_some_iff`).
-/

set_option autoImplicit false

namespace AbiBindings.Text

/-- A number is written in digits. -/
theorem all_isDigit_toString (n : Nat) : (toString n).toList.all isDigit := by
  rw [List.all_eq_true]
  intro c hc
  rw [Nat.toString_eq_repr, Nat.toList_repr] at hc
  have hdigit : c.isDigit := Nat.isDigit_of_mem_toDigits (by decide) (by decide) hc
  simpa [isDigit, Char.isDigit, Char.le_def] using hdigit

/-- The value of the digits of a number is that number. -/
theorem digitsValue_toString (n : Nat) : digitsValue (toString n).toList = n := by
  rw [Nat.toString_eq_repr, Nat.toList_repr]
  have h := Nat.ofDigitChars_ten_toDigits (n := n)
  rw [Nat.ofDigitChars_eq_foldl] at h
  exact h

/-- A digit behind digits counts once, and what is before it ten times. -/
theorem digitsValue_concat (cs : List Char) (c : Char) :
    digitsValue (cs ++ [c]) = 10 * digitsValue cs + (c.toNat - '0'.toNat) := by
  rw [digitsValue, List.foldl_append]
  rfl

/-- A digit is the numeral of its value. -/
theorem toDigits_of_isDigit {c : Char} (h : isDigit c) :
    c.toNat - '0'.toNat < 10 ∧ Nat.toDigits 10 (c.toNat - '0'.toNat) = [c] := by
  simp only [isDigit, Bool.and_eq_true, decide_eq_true_eq, Char.le_def, UInt32.le_iff_toNat_le] at h
  have hlow : '0'.toNat ≤ c.toNat := h.1
  have hhigh : c.toNat ≤ '9'.toNat := h.2
  have hzero : '0'.toNat = 48 := rfl
  have hnine : '9'.toNat = 57 := rfl
  have hlt : c.toNat - '0'.toNat < 10 := by omega
  have hchar : Nat.digitChar (c.toNat - '0'.toNat) = c := by
    rw [← Char.toNat_inj, Nat.toNat_digitChar_of_lt_ten hlt]
    omega
  exact ⟨hlt, by rw [Nat.toDigits_of_lt_base hlt, hchar]⟩

/-- Digits that are not led by a zero are the numeral of their value. -/
theorem toDigits_digitsValue {cs : List Char} (hdigits : cs.all isDigit) (hne : cs ≠ [])
    (hlead : cs.head? ≠ some '0') : Nat.toDigits 10 (digitsValue cs) = cs := by
  induction cs using List.reverseRecOn with
  | nil => exact absurd rfl hne
  | append_singleton front c ih =>
    rw [List.all_append, Bool.and_eq_true, List.all_cons, Bool.and_eq_true] at hdigits
    obtain ⟨hfront, hc, -⟩ := hdigits
    obtain ⟨hlt, hdigit⟩ := toDigits_of_isDigit hc
    rw [digitsValue_concat]
    by_cases hnil : front = []
    · subst hnil
      simpa [digitsValue] using hdigit
    · rw [List.head?_append_of_ne_nil _ hnil] at hlead
      have hnumeral := ih hfront hnil hlead
      have hpos : 0 < digitsValue front := by
        by_contra hzero
        obtain hzero : digitsValue front = 0 := by omega
        rw [hzero, Nat.toDigits_zero] at hnumeral
        exact hlead (by rw [← hnumeral]; rfl)
      rw [← Nat.toDigits_append_toDigits (by decide) hpos hlt, hnumeral, hdigit]

/-- The numeral of a positive number is not led by a zero. -/
theorem head?_toDigits {n : Nat} (hn : 0 < n) : (Nat.toDigits 10 n).head? ≠ some '0' := by
  induction n using Nat.strongRecOn with
  | ind n ih =>
    by_cases hlt : n < 10
    · rw [Nat.toDigits_of_lt_base hlt, List.head?_cons]
      intro h
      have hvalue := congrArg Char.toNat (Option.some.inj h)
      rw [Nat.toNat_digitChar_of_lt_ten hlt] at hvalue
      have hzero : '0'.toNat = 48 := rfl
      omega
    · have hfront := ih (n / 10) (by omega) (by omega)
      rw [Nat.toDigits_of_base_le (by decide) (by omega),
        List.head?_append_of_ne_nil _ Nat.toDigits_ne_nil]
      exact hfront

/-- What is read as a number is the numeral of that number. -/
theorem eq_toString_of_numeral? {cs : List Char} {n : Nat} (h : numeral? cs = some n) :
    cs = (toString n).toList := by
  unfold numeral? at h
  split at h
  · cases h
  · rename_i hcanonical
    simp only [Bool.or_eq_true, not_or, Bool.not_eq_true, Bool.not_eq_false', Bool.and_eq_true,
      decide_eq_true_eq, beq_iff_eq, not_and, List.isEmpty_eq_false_iff] at hcanonical
    obtain ⟨⟨hne, hdigits⟩, hlead⟩ := hcanonical
    obtain rfl := Option.some.inj h
    rw [Nat.toString_eq_repr, Nat.toList_repr]
    by_cases hzero : cs.head? = some '0'
    · -- a lone zero is the one numeral that a zero leads
      have hshort : ¬ cs.length > 1 := fun hlong => hlead hlong hzero
      match cs with
      | [] => exact absurd rfl hne
      | [c] =>
        obtain rfl := Option.some.inj hzero
        rfl
      | _ :: _ :: _ => simp at hshort
    · exact (toDigits_digitsValue hdigits hne hzero).symm

/-- A number is read from its numeral. -/
theorem numeral?_toString (n : Nat) : numeral? (toString n).toList = some n := by
  have hlead : (toString n).toList.length > 1 → (toString n).toList.head? ≠ some '0' := by
    rw [Nat.toString_eq_repr, Nat.toList_repr]
    intro hlength
    apply head?_toDigits
    by_contra hn
    obtain rfl : n = 0 := by omega
    exact absurd hlength (by decide)
  have hne : (toString n).toList.isEmpty = false := by simp
  unfold numeral?
  rw [digitsValue_toString, all_isDigit_toString, hne]
  rw [if_neg]
  simp only [Bool.not_true, Bool.or_self, Bool.false_or, Bool.and_eq_true, decide_eq_true_eq,
    beq_iff_eq, not_and]
  exact hlead

/-- A list of characters is read as a number exactly if it is what the number is written as. -/
theorem numeral?_eq_some_iff {cs : List Char} {n : Nat} :
    numeral? cs = some n ↔ cs = (toString n).toList := by
  constructor
  · exact eq_toString_of_numeral?
  · rintro rfl
    exact numeral?_toString n

end AbiBindings.Text
