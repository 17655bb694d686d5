import Mathlib.Tactic.SplitIfs
import AbiBindings.Code.Literal
import AbiBindings.Code.LiteralValue
import AbiBindings.Proofs.Numerals

/-!
# Literals are read back

What a literal stands for is found by reading it: the value of an integer literal, the bytes of an
array of such literals, the bytes of hexadecimal digits, and the text of a string literal by the
escapes of the language. The writers of literals are shown to be inverse to these readers.
-/

set_option autoImplicit false

/-! ## Hexadecimal digits -/

namespace AbiBindings.Text

/-- The value of a hexadecimal digit is read back. -/
theorem hexValue?_hexDigit {n : Nat} (h : n < 16) : hexValue? (hexDigit n) = some n := by
  have hdigits : ∀ k : Fin 16, hexValue? (hexDigit k) = some k.val := by decide +kernel
  exact hdigits ⟨n, h⟩

/-- The bytes that pairs of hexadecimal digits stand for. -/
def hexBytes? : List Char → Option (List UInt8)
  | [] => some []
  | [_] => none
  | high :: low :: rest =>
    match hexValue? high, hexValue? low, hexBytes? rest with
    | some h, some l, some bytes => some ((16 * h + l).toUInt8 :: bytes)
    | _, _, _ => none

/-- Bytes are read back from their digits. -/
theorem hexBytes?_hexOfBytes (bytes : List UInt8) :
    hexBytes? (hexOfBytes bytes).toList = some bytes := by
  rw [hexOfBytes, String.toList_ofList]
  induction bytes with
  | nil => rfl
  | cons b bytes ih =>
    have hb : b.toNat < 256 := b.toNat_lt
    have hhigh := hexValue?_hexDigit (n := b.toNat / 16) (by omega)
    have hlow := hexValue?_hexDigit (n := b.toNat % 16) (by omega)
    have hvalue : 16 * (b.toNat / 16) + b.toNat % 16 = b.toNat := by omega
    rw [List.flatMap_cons, List.cons_append, List.cons_append, List.nil_append, hexBytes?, hhigh,
      hlow, ih]
    simp [hvalue]

/-- Whether a character is a hexadecimal digit as it is written, in lower case. -/
def IsLowerHex (c : Char) : Prop :=
  ('0' ≤ c ∧ c ≤ '9') ∨ ('a' ≤ c ∧ c ≤ 'f')

/-- Whether a character is a lower-case hexadecimal digit is decided by its ranges. -/
instance (c : Char) : Decidable (IsLowerHex c) :=
  inferInstanceAs (Decidable (_ ∨ _))

/-- Digits are written in lower case. -/
theorem isLowerHex_hexDigit {n : Nat} (h : n < 16) : IsLowerHex (hexDigit n) := by
  have hdigits : ∀ k : Fin 16, IsLowerHex (hexDigit k) := by decide +kernel
  exact hdigits ⟨n, h⟩

/-- Bytes are written in lower-case digits. -/
theorem isLowerHex_of_mem_hexOfBytes {bytes : List UInt8} {c : Char}
    (h : c ∈ (hexOfBytes bytes).toList) : IsLowerHex c := by
  rw [hexOfBytes, String.toList_ofList] at h
  obtain ⟨b, -, hc⟩ := List.mem_flatMap.1 h
  have hb : b.toNat < 256 := b.toNat_lt
  simp only [List.mem_cons, List.not_mem_nil, or_false] at hc
  rcases hc with rfl | rfl
  · exact isLowerHex_hexDigit (by omega)
  · exact isLowerHex_hexDigit (by omega)

/-- A byte has two digits with zeros in front of them. -/
theorem paddedHex_eq {n : Nat} (h : n < 256) :
    paddedHex 2 n = String.ofList [hexDigit (n / 16), hexDigit (n % 16)] := by
  unfold paddedHex
  by_cases hn : n < 16
  · have hfirst : n / 16 = 0 := Nat.div_eq_of_lt hn
    rw [hexDigits, if_pos hn, hfirst, Nat.mod_eq_of_lt hn]
    rfl
  · have hfirst : n / 16 < 16 := by omega
    rw [hexDigits, if_neg hn, hexDigits, if_pos hfirst]
    rfl

/-- Bytes are written alike as a whole and one by one. -/
theorem join_paddedHex (bytes : List UInt8) :
    String.join (bytes.map fun b => paddedHex 2 b.toNat) = hexOfBytes bytes := by
  rw [← String.toList_inj, String.toList_join, hexOfBytes, String.toList_ofList, List.flatMap_map]
  apply List.flatMap_congr
  intro b _
  rw [paddedHex_eq b.toNat_lt, String.toList_ofList]

/-- A number has no more digits than it needs. -/
theorem length_hexDigits_le (k n : Nat) (h : n < Nat.pow 16 (k + 1)) :
    (hexDigits n).length ≤ k + 1 := by
  induction k generalizing n with
  | zero =>
    have hn : n < 16 := h
    rw [hexDigits, if_pos hn]
    exact Nat.le_refl 1
  | succ k ih =>
    rw [hexDigits]
    split
    · simp
    · have hpow : Nat.pow 16 (k + 1 + 1) = Nat.pow 16 (k + 1) * 16 := rfl
      have hfront := ih (n / 16) (by omega)
      simp only [List.length_append, List.length_singleton]
      omega

/-- Six digits are enough for a code point. -/
theorem length_hexDigits_char (c : Char) : (hexDigits c.toNat).length ≤ 6 := by
  have hlimit : Nat.pow 16 (5 + 1) = 16777216 := rfl
  have hvalid : Nat.isValidChar c.toNat := c.valid
  apply length_hexDigits_le 5
  obtain h | ⟨-, h⟩ := hvalid <;> omega

/-- A number has a digit at least. -/
theorem length_hexDigits_pos (n : Nat) : 0 < (hexDigits n).length := by
  rw [hexDigits]
  split <;> simp

/-- The escape of a character is not empty. -/
theorem Quoted.length_escapeChar_pos (c : Char) : 0 < (Quoted.escapeChar c).length := by
  unfold Quoted.escapeChar
  split_ifs <;> simp [Quoted.escapeCodePoint]

/-- A reader of at most six digits that counts them and keeps their value reads those of a number
one after the other. -/
theorem read_hexDigits {β : Type} (read : Nat → Nat → List Char → β)
    (hstep : ∀ k count value rest, k < 16 → count < 6 →
      read count value (hexDigit k :: rest) = read (count + 1) (16 * value + k) rest)
    (n : Nat) (rest : List Char) (h : (hexDigits n).length ≤ 6) :
    read 0 0 (hexDigits n ++ rest) = read (hexDigits n).length n rest := by
  induction n using hexDigits.induct generalizing rest with
  | case1 n hn =>
    have hnone : 0 < 6 := by decide
    rw [hexDigits, if_pos hn, List.singleton_append, hstep n 0 0 rest hn hnone]
    simp
  | case2 n hn ih =>
    have hdigits : hexDigits n = hexDigits (n / 16) ++ [hexDigit (n % 16)] := by
      rw [hexDigits, if_neg hn]
    have hvalue : 16 * (n / 16) + n % 16 = n := by omega
    rw [hdigits, List.length_append, List.length_singleton] at h
    have hlast : n % 16 < 16 := Nat.mod_lt n (by decide)
    have hroom : (hexDigits (n / 16)).length < 6 := h
    have hfront := ih (hexDigit (n % 16) :: rest) (Nat.le_of_lt hroom)
    rw [hdigits, List.append_assoc, List.singleton_append, hfront, hstep _ _ _ rest hlast hroom,
      hvalue, List.length_append, List.length_singleton]

end AbiBindings.Text

namespace AbiBindings.Code

/-! ## Numbers and bytes -/

/-- Digits are read to the value that they stand for. -/
theorem digits?_of_all_isDigit {cs : List Char} (h : cs.all Text.isDigit) (value : Nat) :
    LiteralValue.digits? 10 value cs =
      some (cs.foldl (fun n c => 10 * n + (c.toNat - '0'.toNat)) value, []) := by
  induction cs generalizing value with
  | nil => rfl
  | cons c cs ih =>
    rw [List.all_cons, Bool.and_eq_true] at h
    obtain ⟨hc, hcs⟩ := h
    have hunderscore : (c == '_') = false := by
      rw [beq_eq_false_iff_ne]
      rintro rfl
      exact absurd hc (by decide)
    have hdigit : LiteralValue.digit? 10 c = some (c.toNat - '0'.toNat) := if_pos hc
    obtain ⟨hlt, -⟩ := Text.toDigits_of_isDigit hc
    rw [LiteralValue.digits?, hunderscore, hdigit]
    simp only [hlt, if_true, Bool.false_eq_true, if_false, List.foldl_cons]
    exact ih hcs _

/-- A number is the value of its literal, which has no suffix. -/
theorem integer?_toString (n : Nat) :
    LiteralValue.integer? (toString n).toList = some (n, []) := by
  have hdigits := Text.all_isDigit_toString n
  have hvalue := Text.digitsValue_toString n
  have hread := digits?_of_all_isDigit hdigits 0
  unfold LiteralValue.integer?
  split
  · rename_i heq
    rw [heq] at hdigits
    simp [Text.isDigit] at hdigits
  · rename_i heq
    rw [heq] at hdigits
    simp [Text.isDigit] at hdigits
  · rename_i heq
    rw [heq] at hdigits
    simp [Text.isDigit] at hdigits
  · rename_i c rest _ _ _ heq
    rw [heq, List.all_cons, Bool.and_eq_true] at hdigits
    rw [heq] at hread hvalue
    have hfirst : ('0' ≤ c && c ≤ '9') = true := hdigits.1
    rw [if_pos hfirst, hread]
    exact congrArg (fun n => some (n, [])) hvalue
  · rename_i heq
    simp at heq

/-- The byte that a token stands for: an integer literal without a suffix that is small enough. -/
def byte? : Token → Option UInt8
  | .literal text =>
    match LiteralValue.integer? text.toList with
    | some (n, []) => if n < 256 then some n.toUInt8 else none
    | _ => none
  | _ => none

/-- The bytes that tokens with commas between them stand for. -/
def byteList? : List Token → Option (List UInt8)
  | [] => some []
  | [token] => (byte? token).map ([·])
  | token :: .mark ',' _ :: rest =>
    match byte? token, byteList? rest with
    | some b, some bytes => some (b :: bytes)
    | _, _ => none
  | _ => none

/-- The bytes that an array of integer literals stands for. -/
def byteArray? : Token → Option (List UInt8)
  | .group .square body => byteList? body
  | _ => none

/-- A byte is read back from the literal of its number. -/
theorem byte?_numberLiteral (b : UInt8) : byte? (numberLiteral b.toNat) = some b := by
  have hb : b.toNat < 256 := b.toNat_lt
  rw [numberLiteral, byte?, integer?_toString]
  simp [hb]

/-- An array of bytes stands for those bytes. -/
theorem byteArray?_byteArray (bytes : List UInt8) : byteArray? (byteArray bytes) = some bytes := by
  show byteList? (commaSeparated (bytes.map fun b => [numberLiteral b.toNat])) = some bytes
  induction bytes with
  | nil => rfl
  | cons b bytes ih =>
    have hb := byte?_numberLiteral b
    cases bytes with
    | nil =>
      rw [List.map_singleton, commaSeparated, byteList?, hb]
      rfl
    | cons c bytes =>
      rw [List.map_cons] at ih
      rw [List.map_cons, List.map_cons, commaSeparated, List.singleton_append, byteList?, hb, ih]
      simp

/-! ## Strings -/

/-- Where a reader stands in a string literal: among the characters that stand for themselves, where
blanks are skipped behind an escaped line break, or in an escape. -/
inductive Place where
  | text (skips : Bool)
  | escape
  | high
  | low (high : Nat)
  | brace
  | codePoint (count value : Nat)

/-- The character that an escape of one letter stands for. -/
def escaped? (c : Char) : Option Char :=
  if c == '0' then some '\x00'
  else if c == 't' then some '\t'
  else if c == 'r' then some '\r'
  else if c == 'n' then some '\n'
  else if c == '"' || c == '\'' || c == '\\' then some c
  else none

/-- The characters that the rest of a string literal stands for, up to the quote at its end. -/
def stringChars? : Place → List Char → Option (List Char)
  | _, [] => none
  | .text skips, c :: rest =>
    if skips && (c == ' ' || c == '\t' || c == '\n') then stringChars? (.text true) rest
    else if c == '"' then if rest.isEmpty then some [] else none
    else if c == '\\' then stringChars? .escape rest
    else if c == '\r' then none
    else (stringChars? (.text false) rest).map (c :: ·)
  | .escape, c :: rest =>
    if c == 'x' then stringChars? .high rest
    else if c == 'u' then stringChars? .brace rest
    else if c == '\n' then stringChars? (.text true) rest
    else
      match escaped? c with
      | some d => (stringChars? (.text false) rest).map (d :: ·)
      | none => none
  | .high, c :: rest =>
    match Text.hexValue? c with
    | some h => if h < 8 then stringChars? (.low h) rest else none
    | none => none
  | .low h, c :: rest =>
    match Text.hexValue? c with
    | some l => (stringChars? (.text false) rest).map (Char.ofNat (16 * h + l) :: ·)
    | none => none
  | .brace, c :: rest => if c == '\x7b' then stringChars? (.codePoint 0 0) rest else none
  | .codePoint count value, c :: rest =>
    if c == '\x7d' then
      if 0 < count && Nat.isValidChar value then
        (stringChars? (.text false) rest).map (Char.ofNat value :: ·)
      else none
    else if c == '_' && 0 < count then stringChars? (.codePoint count value) rest
    else
      match Text.hexValue? c with
      | some d =>
        if count < 6 then stringChars? (.codePoint (count + 1) (16 * value + d)) rest else none
      | none => none

/-- The text that a string literal stands for. -/
def stringValue? : Token → Option String
  | .literal text =>
    match text.toList with
    | '"' :: rest => (stringChars? (.text false) rest).map String.ofList
    | _ => none
  | _ => none

/-- A digit of a code point in a string is read. -/
theorem stringChars?_hexDigit {k count : Nat} (hk : k < 16) (hcount : count < 6) (value : Nat)
    (rest : List Char) :
    stringChars? (.codePoint count value) (Text.hexDigit k :: rest) =
      stringChars? (.codePoint (count + 1) (16 * value + k)) rest := by
  have hdigits : ∀ k : Fin 16, (Text.hexDigit k == '\x7d') = false ∧
      (Text.hexDigit k == '_') = false := by
    decide +kernel
  obtain ⟨hbrace, hunderscore⟩ := hdigits ⟨k, hk⟩
  rw [stringChars?, Text.hexValue?_hexDigit hk]
  simp [hbrace, hunderscore, hcount]

/-- The digits of a code point are read one after the other. -/
theorem stringChars?_hexDigits (n : Nat) (rest : List Char)
    (h : (Text.hexDigits n).length ≤ 6) :
    stringChars? (.codePoint 0 0) (Text.hexDigits n ++ rest) =
      stringChars? (.codePoint (Text.hexDigits n).length n) rest := by
  have hstep (k count value : Nat) (rest : List Char) (hk : k < 16) (hcount : count < 6) :=
    stringChars?_hexDigit hk hcount value rest
  exact Text.read_hexDigits (fun count value => stringChars? (.codePoint count value)) hstep n rest h

/-- A character is read back from its escape, or as it is. -/
theorem stringChars?_escapeChar (c : Char) (rest : List Char) :
    stringChars? (.text false) (Text.Quoted.escapeChar c ++ rest) =
      (stringChars? (.text false) rest).map (c :: ·) := by
  unfold Text.Quoted.escapeChar
  split_ifs with hnul htab hreturn hfeed hquote hbackslash hshown
  · obtain rfl := beq_iff_eq.1 hnul
    rfl
  · obtain rfl := beq_iff_eq.1 htab
    rfl
  · obtain rfl := beq_iff_eq.1 hreturn
    rfl
  · obtain rfl := beq_iff_eq.1 hfeed
    rfl
  · obtain rfl := beq_iff_eq.1 hquote
    rfl
  · obtain rfl := beq_iff_eq.1 hbackslash
    rfl
  · rw [List.singleton_append, stringChars?]
    simp [hreturn, hquote, hbackslash]
  · have hvalid : Nat.isValidChar c.toNat := c.valid
    have hlength := Text.length_hexDigits_char c
    have hpositive := Text.length_hexDigits_pos c.toNat
    -- the backslash, the letter and the brace lead to the digits
    show stringChars? (.codePoint 0 0) (Text.hexDigits c.toNat ++ ['\x7d'] ++ rest) = _
    rw [List.append_assoc, stringChars?_hexDigits _ _ hlength, List.singleton_append, stringChars?]
    simp [hpositive, hvalid]

/-- A text is what its string literal stands for: NUL before an octal digit is read from two
hexadecimal digits, every other character from its own escape. -/
theorem stringChars?_literalChars (cs : List Char) :
    stringChars? (.text false) (literalChars cs ++ ['"']) = some cs := by
  induction cs with
  | nil => rfl
  | cons c cs ih =>
    rw [literalChars]
    split
    · rename_i hoctal
      obtain rfl := beq_iff_eq.1 (Bool.and_eq_true_iff.1 hoctal).1
      show (stringChars? (.text false) (literalChars cs ++ ['"'])).map ('\x00' :: ·) = _
      rw [ih]
      rfl
    · rw [List.append_assoc, stringChars?_escapeChar, ih]
      rfl

/-- A text is read back from its literal. -/
theorem stringValue?_stringLiteral (s : String) : stringValue? (stringLiteral s) = some s := by
  have hread := stringChars?_literalChars s.toList
  rw [stringLiteral, stringValue?, String.toList_ofList, List.cons_append]
  simp [hread]

end AbiBindings.Code
