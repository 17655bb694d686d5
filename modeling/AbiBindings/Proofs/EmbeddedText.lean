import AbiBindings.Code.Lexer
import AbiBindings.Proofs.CodeParts
import AbiBindings.Proofs.Generation
import AbiBindings.Proofs.Literals

/-!
# Embedded text stays in its literal

Names and compiled code are text that nobody has checked, and both end up between the quotes of
literals. Such a literal ends where it was meant to, whatever the text is and whatever follows in
the code, and stands for exactly that text (`embedded_text_is_one_literal`).
-/

set_option autoImplicit false

namespace AbiBindings.Code

/-! ## Where a literal ends -/

namespace LiteralScanner

/-- A digit of a code point is scanned. -/
theorem afterCodePoint?_hexDigit {k count : Nat} (hk : k < 16) (hcount : count < 6) (value : Nat)
    (rest : List Char) :
    afterCodePoint? .text count value (Text.hexDigit k :: rest) =
      afterCodePoint? .text (count + 1) (16 * value + k) rest := by
  have hdigits : ∀ k : Fin 16, (Text.hexDigit k == '\x7d') = false ∧
      (Text.hexDigit k == '_') = false := by
    decide +kernel
  obtain ⟨hbrace, hunderscore⟩ := hdigits ⟨k, hk⟩
  rw [afterCodePoint?, Text.hexValue?_hexDigit hk]
  simp [hbrace, hunderscore, hcount]

/-- The digits of the code point of a character are scanned up to the brace behind them. -/
theorem afterCodePoint?_hexDigits (c : Char) (rest : List Char) :
    afterCodePoint? .text 0 0 (Text.hexDigits c.toNat ++ '\x7d' :: rest) = some rest := by
  have hlength := Text.length_hexDigits_char c
  have hpositive := Text.length_hexDigits_pos c.toNat
  have hvalid : Nat.isValidChar c.toNat := c.valid
  have hstep (k count value : Nat) (rest : List Char) (hk : k < 16) (hcount : count < 6) :=
    afterCodePoint?_hexDigit hk hcount value rest
  have hread := Text.read_hexDigits (afterCodePoint? .text) hstep c.toNat ('\x7d' :: rest) hlength
  rw [hread, afterCodePoint?]
  simp [hpositive, hvalid]

/-- A scanner of strings passes over the escape of a character in one step. -/
theorem afterQuoted?_escapeChar (c : Char) (fuel : Nat) (rest : List Char) :
    afterQuoted? .text (fuel + 1) (Text.Quoted.escapeChar c ++ rest) =
      afterQuoted? .text fuel rest := by
  unfold Text.Quoted.escapeChar
  split_ifs with hnul htab hreturn hfeed hquote hbackslash hshown
  · rfl
  · rfl
  · rfl
  · rfl
  · rfl
  · rfl
  · simp [afterQuoted?, hreturn, hquote, hbackslash, allowsChar]
  · have hdigits := afterCodePoint?_hexDigits c rest
    -- behind the backslash, the letter and the brace stand the digits
    show (afterCodePoint? .text 0 0 (Text.hexDigits c.toNat ++ ['\x7d'] ++ rest)).bind
      (afterQuoted? .text fuel) = _
    rw [List.append_assoc, List.singleton_append, hdigits]
    rfl

/-- The characters of a literal are scanned up to the quotation mark behind them. -/
theorem afterQuoted?_literalChars (cs : List Char) {fuel : Nat} (rest : List Char)
    (h : (literalChars cs).length < fuel) :
    afterQuoted? .text fuel (literalChars cs ++ '"' :: rest) = some (afterSuffix rest) := by
  induction cs generalizing fuel with
  | nil =>
    obtain ⟨fuel, rfl⟩ := Nat.exists_eq_add_of_lt h
    rfl
  | cons c cs ih =>
    obtain ⟨fuel, rfl⟩ : ∃ k, fuel = k + 1 := ⟨fuel - 1, by omega⟩
    rw [literalChars, List.length_append] at h
    rw [literalChars, List.append_assoc]
    split
    · rename_i hoctal
      rw [if_pos hoctal] at h
      exact ih (by simp at h; omega)
    · rename_i hplain
      have hpositive := Text.Quoted.length_escapeChar_pos c
      rw [if_neg hplain] at h
      rw [afterQuoted?_escapeChar]
      exact ih (by omega)

end LiteralScanner

/-- Whether a text goes on with a word, which would be a suffix of a literal before it. -/
def opensWord : List Char → Bool
  | c :: _ => Text.isIdentifierStart c
  | [] => false

/-- Where no word begins, a literal has no suffix. -/
theorem afterSuffix_eq_self {rest : List Char} (h : ¬ opensWord rest) :
    LiteralScanner.afterSuffix rest = rest := by
  unfold LiteralScanner.afterSuffix
  cases rest with
  | nil => rfl
  | cons c rest =>
    have hstart : ¬ Text.isIdentifierStart c := h
    rw [takeWord?, if_neg hstart]

/-- The text of the string literal of a text. -/
def literalText (s : String) : String :=
  String.ofList ('"' :: literalChars s.toList ++ ['"'])

/-- A reader of code takes the literal of a text as one token, whatever follows it, unless that is a
word. -/
theorem leaf?_literalText (s : String) {rest : List Char} (h : ¬ opensWord rest) :
    leaf? ((literalText s).toList ++ rest) = some (stringLiteral s, rest) := by
  have htext : (literalText s).toList ++ rest = '"' :: (literalChars s.toList ++ '"' :: rest) := by
    simp [literalText]
  have hfuel : (literalChars s.toList).length < (literalText s).toList.length + rest.length := by
    simp [literalText]
    omega
  have hend := LiteralScanner.afterQuoted?_literalChars s.toList rest hfuel
  have hliteral : LiteralScanner.afterLiteral? ((literalText s).toList ++ rest) = some rest := by
    rw [LiteralScanner.afterLiteral?, htext, LiteralScanner.afterText?, ← htext,
      List.length_append, hend, afterSuffix_eq_self h]
  have htake : ((literalText s).toList ++ rest).take
      (((literalText s).toList ++ rest).length - rest.length) = (literalText s).toList := by
    simp
  rw [leaf?, hliteral]
  dsimp only
  rw [htake, String.ofList_toList]
  rfl

end AbiBindings.Code

namespace AbiBindings.Bindings

open Code Traversal

/-- The constant that holds the compiled code. -/
def constantTokens (s : String) : List Token :=
  phrase "pub const BINARY : Option < & str > =" ++
    ([.word "Some", round [stringLiteral s]] ++ phrase ";")

/-- The constant with the compiled code, as text. -/
theorem render_constantTokens (s : String) : render (constantTokens s) =
    "pub const BINARY : Option < & str > = Some (" ++ literalText s ++ ") ;" := by
  have hfront : phrase "pub const BINARY : Option < & str > =" =
      [.word "pub", .word "const", .word "BINARY", .mark ':' false, .word "Option", .mark '<' false,
        .mark '&' false, .word "str", .mark '>' false, .mark '=' false] := rfl
  have hback : phrase ";" = [.mark ';' false] := rfl
  rw [constantTokens, hfront, hback, ← String.toList_inj]
  simp [render, Token.listPieces, Token.pieces, Token.gap, Bracket.opening, Bracket.closing,
    Code.round, stringLiteral, literalText]

/-- The compiled code stands in the code of the bindings. -/
theorem constantTokens_standsIn {b : ContractBindings} {s : String} (h : b.code.text = some s) :
    StandsIn (constantTokens s) b.tokens := by
  have hbinary : constantTokens s <:+: binaryTokens b.code := by
    rw [binaryTokens, h]
    refine ⟨docLine "The compiled contract binary embedded at generation time, or `None`" ++
      docLine "if it was not provided. Deployments fail without it.", [], ?_⟩
    simp only [constantTokens, List.append_nil, List.append_assoc]
  exact (StandsIn.here hbinary).trans (binaryTokens_standsIn b)

/-- Bindings keep the code that they are generated with. -/
theorem code_of_generate {settings : Settings} {name : String} {abi : Abi.Interface}
    {code : Bytecode} {b : ContractBindings} (h : generate settings name abi code = .ok b) :
    b.code = code := by
  obtain ⟨setup, d, ms, es, -, -, -, -, -, rfl⟩ := generate_eq_ok h
  rfl

/-- Embedded text cannot break out of its literal. The literal of a text stands for exactly that
text by the escapes of the language, and a reader of code takes it as one token, whatever follows
that is no word. It is what documentation is written with, and what the compiled code is written
with in all bindings that are generated. -/
theorem embedded_text_is_one_literal (s : String) :
    stringValue? (.literal (literalText s)) = some s ∧
      (∀ rest, ¬ opensWord rest →
        leaf? ((literalText s).toList ++ rest) = some (.literal (literalText s), rest)) ∧
      render (doc s) = "# [doc = " ++ literalText s ++ "]" ∧
      ∀ settings name abi code b, generate settings name abi code = .ok b → code.text = some s →
        ∃ before after, b.source = before ++
          ("pub const BINARY : Option < & str > = Some (" ++ literalText s ++ ") ;") ++ after := by
  refine ⟨stringValue?_stringLiteral s, fun rest h => leaf?_literalText s h, ?_, ?_⟩
  · rw [doc, ← String.toList_inj]
    simp [render, docAttribute, Token.listPieces, Token.pieces, Token.gap, Bracket.opening,
      Bracket.closing, Code.square, stringLiteral, literalText]
  · intro settings name abi code b h hcode
    rw [← code_of_generate h] at hcode
    rw [← render_constantTokens]
    exact (constantTokens_standsIn hcode).exists_render

/-- A text with a NUL before a digit, a quote, a backslash, a line break and an accent. -/
def hostileText : String := "\x007\"\\\n\u0301*/"

/-- The literal of the text is one token in front of brackets, and stands in the code of bindings
whose compiled code the text is. -/
theorem embedded_text_is_one_literal_hostile :
    literalText hostileText = "\"\\x007\\\"\\\\\\n\\u\x7b301\x7d*/\"" ∧
      leaf? ((literalText hostileText).toList ++ ") ;".toList) =
        some (.literal (literalText hostileText), ") ;".toList) ∧
      ∃ b before after, generate {} "Token" ⟨[]⟩ ⟨some hostileText⟩ = .ok b ∧ b.source = before ++
        ("pub const BINARY : Option < & str > = Some (" ++ literalText hostileText ++ ") ;") ++
          after := by
  obtain ⟨-, hleaf, -, hsource⟩ := embedded_text_is_one_literal hostileText
  obtain ⟨b, hb⟩ : ∃ b, generate {} "Token" ⟨[]⟩ ⟨some hostileText⟩ = .ok b :=
    isOk_iff.1 (by decide +kernel)
  obtain ⟨before, after, hcode⟩ := hsource _ _ _ _ b hb rfl
  exact ⟨by decide +kernel, hleaf _ (by decide +kernel), b, before, after, hb, hcode⟩

end AbiBindings.Bindings
