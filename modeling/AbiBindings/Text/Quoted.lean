import AbiBindings.Text.Hex
import AbiBindings.Text.PrintableSet

/-!
# Quoted text

The form in which a text is shown between double quotes: the quote and the backslash are escaped,
tab, carriage return, line feed and NUL have escapes of their own, every other character that
would not show as itself is written by its code point, and the rest stands as it is. A single
quote needs no escape.
-/

set_option autoImplicit false

namespace AbiBindings.Text.Quoted

/-- A character by its code point, in braces. -/
def escapeCodePoint (c : Char) : List Char :=
  '\\' :: 'u' :: '\x7b' :: hexDigits c.toNat ++ ['\x7d']

/-- How one character is written between quotes. -/
def escapeChar (c : Char) : List Char :=
  if c == '\x00' then ['\\', '0']
  else if c == '\t' then ['\\', 't']
  else if c == '\r' then ['\\', 'r']
  else if c == '\n' then ['\\', 'n']
  else if c == '"' then ['\\', '"']
  else if c == '\\' then ['\\', '\\']
  else if isShown c then [c]
  else escapeCodePoint c

/-- A text between quotes. -/
def quote (s : String) : String :=
  String.ofList ('"' :: s.toList.flatMap escapeChar ++ ['"'])

end AbiBindings.Text.Quoted
