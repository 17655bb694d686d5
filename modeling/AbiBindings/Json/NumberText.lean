import AbiBindings.Decimal.Shortest

/-!
# The text of floating point numbers

A number from `10 ^ -5` up to but not including `10 ^ 16` is written with a point, and with a zero
behind it if it is an integer; any other is written with one digit before the point and an
exponent that has a sign.
-/

set_option autoImplicit false

namespace AbiBindings.Json

/-- Digits with a point behind the first, if there are further digits. -/
def pointAfterFirst (digits : List Char) : List Char :=
  match digits with
  | first :: second :: rest => first :: '.' :: second :: rest
  | _ => digits

/-- An exponent with its sign. -/
def exponentText (exponent : Int) : List Char :=
  (if exponent < 0 then '-' else '+') :: (toString exponent.natAbs).toList

/-- The text of a decimal that is not zero. -/
def decimalText (d : Decimal) : String :=
  let digits := (toString d.digits).toList
  let leading := d.exponent + digits.length - 1
  String.ofList <|
    if -5 ≤ leading ∧ leading ≤ 15 then
      if 0 ≤ d.exponent then digits ++ List.replicate d.exponent.toNat '0' ++ ['.', '0']
      else if 0 ≤ leading then
        digits.take (leading + 1).toNat ++ '.' :: digits.drop (leading + 1).toNat
      else '0' :: '.' :: List.replicate (-leading - 1).toNat '0' ++ digits
    else pointAfterFirst digits ++ 'e' :: exponentText leading

/-- The text of a finite number. -/
def floatText (x : Float) : String :=
  let bits := x.toBits
  let binary := Binary.ofBits bits
  let magnitude := if binary.significand = 0 then "0.0" else decimalText binary.shortest
  if bits.toNat ≥ Nat.pow 2 63 then "-" ++ magnitude else magnitude

end AbiBindings.Json
