import AbiBindings.Text.Hex
import AbiBindings.Text.Join

/-!
# The values of integer literals

`integer?` reads the text of a literal as an integer in base 2, 8, 10 or 16 with underscores among
its digits and a suffix behind them. A number with a point or an exponent is none.
-/

set_option autoImplicit false

namespace AbiBindings.Code.LiteralValue

/-- Whether the letter of an exponent is followed by an exponent; `seen` once a digit was met. -/
def isExponent : Bool → List Char → Bool
  | seen, '_' :: rest => isExponent seen rest
  | _, '+' :: _ => true
  | _, '-' :: _ => true
  | seen, c :: rest => if '0' ≤ c && c ≤ '9' then isExponent true rest else seen
  | seen, [] => seen

/-- The value of a digit in a base. In base 16 letters are digits, too. -/
def digit? (base : Nat) (c : Char) : Option Nat :=
  if '0' ≤ c && c ≤ '9' then some (c.toNat - '0'.toNat)
  else if base = 16 then Text.hexValue? c
  else none

/-- The value of digits in a base, of which those before have the value `value`, and the suffix
behind them. -/
def digits? (base : Nat) : Nat → List Char → Option (Nat × List Char)
  | value, [] => some (value, [])
  | value, c :: rest =>
    if c == '_' then digits? base value rest
    else
      match digit? base c with
      | some d => if d < base then digits? base (base * value + d) rest else none
      | none =>
        if base = 10 && c == '.' then none
        else if base = 10 && (c == 'e' || c == 'E') && isExponent false rest then none
        else some (value, c :: rest)

/-- The value of an integer literal and its suffix. -/
def integer? : List Char → Option (Nat × List Char)
  | '0' :: 'x' :: rest => digits? 16 0 rest
  | '0' :: 'o' :: rest => digits? 8 0 rest
  | '0' :: 'b' :: rest => digits? 2 0 rest
  | c :: rest => if '0' ≤ c && c ≤ '9' then digits? 10 0 (c :: rest) else none
  | [] => none

end AbiBindings.Code.LiteralValue
