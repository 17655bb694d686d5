/-!
# The shortest decimal of a binary number

A positive binary floating point number stands for all reals that round to it. `shortest` finds
the decimal with the fewest digits among these reals, and of several with that many digits the one
nearest to the number. All arithmetic is exact.
-/

set_option autoImplicit false

namespace AbiBindings

/-- The number `significand * 2 ^ exponent`, with 53 significant bits at most. -/
structure Binary where
  significand : Nat
  exponent : Int
  deriving DecidableEq, Repr

/-- The number `digits * 10 ^ exponent`. -/
structure Decimal where
  digits : Nat
  exponent : Int
  deriving DecidableEq, Repr

/-- The magnitude of a finite number of 64 bits, given by its bits. -/
def Binary.ofBits (bits : UInt64) : Binary :=
  let fraction : Nat := bits.toNat % Nat.pow 2 52
  let field : Nat := bits.toNat / Nat.pow 2 52 % Nat.pow 2 11
  if field = 0 then ⟨fraction, -1074⟩ else ⟨Nat.pow 2 52 + fraction, Int.ofNat field - 1075⟩

/-- Whether `a * 2 ^ p * 10 ^ s ≤ b * 2 ^ q * 10 ^ t`. -/
def scaledLe (a : Nat) (p s : Int) (b : Nat) (q t : Int) : Bool :=
  a * Nat.pow 2 (p - q).toNat * Nat.pow 10 (s - t).toNat ≤
    b * Nat.pow 2 (q - p).toNat * Nat.pow 10 (t - s).toNat

/-- Whether `a * 2 ^ p * 10 ^ s < b * 2 ^ q * 10 ^ t`. -/
def scaledLt (a : Nat) (p s : Int) (b : Nat) (q t : Int) : Bool :=
  !scaledLe b q t a p s

/-- The distance from a number down to the middle between it and the one before it, in quarters of
its last place. Below a power of two the numbers lie twice as close. -/
def Binary.downwards (b : Binary) : Nat :=
  if b.significand = Nat.pow 2 52 ∧ b.exponent > -1074 then 1 else 2

/-- Whether a decimal rounds to a binary number. The ends of the interval do if the significand is
even. -/
def Binary.accepts (b : Binary) (d : Decimal) : Bool :=
  let low := 4 * b.significand - b.downwards
  let high := 4 * b.significand + 2
  let place := b.exponent - 2
  if b.significand % 2 = 0 then
    scaledLe low place 0 d.digits 0 d.exponent && scaledLe d.digits 0 d.exponent high place 0
  else
    scaledLt low place 0 d.digits 0 d.exponent && scaledLt d.digits 0 d.exponent high place 0

/-- The greatest number of units of `10 ^ exponent` that is at most a binary number. -/
def Binary.floorAt (b : Binary) (exponent : Int) : Nat :=
  b.significand * Nat.pow 2 b.exponent.toNat * Nat.pow 10 (-exponent).toNat /
    (Nat.pow 2 (-b.exponent).toNat * Nat.pow 10 exponent.toNat)

/-- Whether the upper of two neighbouring multiples of `10 ^ exponent` is nearer to a number than
the lower one. -/
def Binary.isNearerAbove (b : Binary) (lower : Nat) (exponent : Int) : Bool :=
  scaledLt (2 * lower + 1) 0 exponent (2 * b.significand) b.exponent 0

/-- The decimal on the grid of `10 ^ exponent` that rounds to a number, if there is one. -/
def Binary.onGrid? (b : Binary) (exponent : Int) : Option Decimal :=
  let lower := b.floorAt exponent
  let below : Decimal := ⟨lower, exponent⟩
  let above : Decimal := ⟨lower + 1, exponent⟩
  match b.accepts below, b.accepts above with
  | true, true => if b.isNearerAbove lower exponent then some above else some below
  | true, false => some below
  | false, true => some above
  | false, false => none

/-- The number of decimal digits before the point, minus the zeros behind it for a number below
one tenth: the least `p` such that the number is below `10 ^ p`. -/
def Binary.magnitude (b : Binary) : Int :=
  let candidates := (List.range 634).map fun n : Nat => Int.ofNat n - 324
  (candidates.find? fun p => scaledLt b.significand b.exponent 0 1 0 p).getD 310

/-- A decimal without the zeros at the end of its digits. -/
def Decimal.normalize (d : Decimal) : Decimal :=
  go d.digits d.exponent 20
where
  /-- Removes zeros within a number of steps. -/
  go (digits : Nat) (exponent : Int) : Nat → Decimal
    | 0 => ⟨digits, exponent⟩
    | fuel + 1 =>
      if digits ≠ 0 ∧ digits % 10 = 0 then go (digits / 10) (exponent + 1) fuel
      else ⟨digits, exponent⟩

/-- The shortest decimal of a positive number. Seventeen digits always suffice. -/
def Binary.shortest (b : Binary) : Decimal :=
  let p := b.magnitude
  let grids := (List.range 17).map fun n : Nat => p - 1 - Int.ofNat n
  ((grids.findSome? b.onGrid?).getD ⟨b.floorAt (p - 17), p - 17⟩).normalize

end AbiBindings
