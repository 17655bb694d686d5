import AbiBindings.Code.Token
import AbiBindings.Text.Quoted

/-!
# Literals

String literals hold any text without letting it out of its quotes; numbers are written in
decimal and without a suffix. A NUL character that stands before an octal digit is written with
two hexadecimal digits, so that no reader takes the digit for a part of the escape.
-/

set_option autoImplicit false

namespace AbiBindings.Code

/-- Whether a text goes on with an octal digit. -/
def startsWithOctal : List Char → Bool
  | c :: _ => '0' ≤ c && c ≤ '7'
  | [] => false

/-- The characters between the quotes of a string literal. -/
def literalChars : List Char → List Char
  | [] => []
  | c :: rest =>
    (if c == '\x00' && startsWithOctal rest then ['\\', 'x', '0', '0']
      else Text.Quoted.escapeChar c) ++ literalChars rest

/-- The string literal of a text. -/
def stringLiteral (s : String) : Token :=
  .literal (String.ofList ('"' :: literalChars s.toList ++ ['"']))

/-- The literal of a number. -/
def numberLiteral (n : Nat) : Token :=
  .literal (toString n)

/-- An array of bytes. -/
def byteArray (bytes : List UInt8) : Token :=
  square (commaSeparated (bytes.map fun b => [numberLiteral b.toNat]))

/-- A documentation attribute with a given literal. -/
def docAttribute (text : Token) : List Token :=
  [.mark '#' false, square [.word "doc", .mark '=' false, text]]

/-- A documentation attribute for any text. -/
def doc (s : String) : List Token :=
  docAttribute (stringLiteral s)

/-- A documentation attribute for a fixed line, which is written without escapes. -/
def docLine (s : String) : List Token :=
  docAttribute (.literal ("r\" " ++ s ++ "\""))

end AbiBindings.Code
