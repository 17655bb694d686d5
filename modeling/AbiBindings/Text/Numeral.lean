/-!
# Decimal numerals

`numeral?` reads a canonical decimal numeral: ASCII digits only, at least one, and no leading zero
unless the numeral is `0` itself. It is the inverse of writing a number in decimal.
-/

set_option autoImplicit false

namespace AbiBindings.Text

/-- Whether a character is an ASCII decimal digit. -/
def isDigit (c : Char) : Bool :=
  '0' ≤ c && c ≤ '9'

/-- The number that a list of decimal digits denotes. -/
def digitsValue (cs : List Char) : Nat :=
  cs.foldl (fun n c => 10 * n + (c.toNat - '0'.toNat)) 0

/-- The value of a canonical decimal numeral, nothing for any other list of characters. -/
def numeral? (cs : List Char) : Option Nat :=
  if cs.isEmpty || !cs.all isDigit || (cs.length > 1 && cs.head? == some '0') then none
  else some (digitsValue cs)

end AbiBindings.Text
