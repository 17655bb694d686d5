import AbiBindings.Json.NumberText
import AbiBindings.Json.Reader

/-!
# Numbers of a document

`readNumber` reads a number and tells whether it is an integer of 64 bits. The digits of any other
number are gathered into an integer of 64 bits, as far as they fit, which is then multiplied by a
power of ten. `skipNumber` checks no more than the form of a number.
-/

set_option autoImplicit false

namespace AbiBindings.Json

/-- A number as it is read. -/
inductive Number where
  | integer (value : Int)
  | floating (value : Float)

/-- The description of a number that stands in the wrong place. -/
def Number.found : Number → Found
  | .integer value => .integer value
  | .floating value => .floating (floatText value)

namespace Reader

/-- The greatest integer that the digits of a number are gathered into. -/
def greatestSignificand : Nat := Nat.pow 2 64 - 1

/-- The greatest exponent that is told apart from those above it. -/
def greatestExponent : Nat := Nat.pow 2 31 - 1

/-- The value of a decimal digit. -/
def digitOf (b : UInt8) : Nat :=
  b.toNat - 0x30

/-- A number with the sign that was read. -/
def signed (positive : Bool) (x : Float) : Number :=
  .floating (if positive then x else -x)

/-- Divides by powers of ten of at most 308 each, within `fuel` steps. -/
def scaleDown : Nat → Float → Nat → Float
  | 0, x, _ => x
  | fuel + 1, x, exponent =>
    if exponent ≤ 308 then x / Float.ofScientific 1 false exponent
    else if x == 0 then x
    else scaleDown fuel (x / 1e308) (exponent - 308)

/-- The number `significand * 10 ^ exponent`. -/
def assemble (positive : Bool) (significand : Nat) (exponent : Int) : Reader Number := do
  let x := significand.toUInt64.toFloat
  if exponent < 0 then
    return signed positive (scaleDown (exponent.natAbs / 308 + 1) x exponent.natAbs)
  else if exponent ≤ 308 then
    let y := x * Float.ofScientific 1 false exponent.toNat
    if y.isInf then failHere .numberOutOfRange else return signed positive y
  else if x == 0 then return signed positive x
  else failHere .numberOutOfRange

/-- Reads the digits of an exponent, of which `exponent` are the first. A number with too great an
exponent is zero or out of range. -/
def exponentDigits (positive : Bool) (significand : Nat) (before : Int) (upwards : Bool) :
    Nat → Nat → Reader Number
  | 0, exponent => assemble positive significand (if upwards then before + exponent
      else before - exponent)
  | fuel + 1, exponent => do
    match ← peek with
    | some b =>
      if isDigit b then
        advance
        let exponent' := 10 * exponent + digitOf b
        if exponent' > greatestExponent then
          if significand != 0 && upwards then failHere .numberOutOfRange
          else
            let _ ← peekBehind isDigit
            return signed positive 0
        else exponentDigits positive significand before upwards fuel exponent'
      else exponentDigits positive significand before upwards 0 exponent
    | none => exponentDigits positive significand before upwards 0 exponent

/-- Reads an exponent from its letter on. -/
def readExponent (positive : Bool) (significand : Nat) (before : Int) : Reader Number := do
  advance
  let sign ← peek
  if sign == some (code '+') || sign == some (code '-') then advance
  match ← next with
  | none => failHere .endInValue
  | some b =>
    if isDigit b then
      exponentDigits positive significand before (sign != some (code '-')) ((← remaining) + 1)
        (digitOf b)
    else failHere .invalidNumber

/-- Whether a byte is the letter of an exponent. -/
def isExponentLetter (b : Option UInt8) : Bool :=
  b == some (code 'e') || b == some (code 'E')

/-- Reads what may follow the last digit that counts: an exponent. -/
def afterFraction (positive : Bool) (significand : Nat) (exponent : Int) : Reader Number := do
  if isExponentLetter (← peek) then readExponent positive significand exponent
  else assemble positive significand exponent

/-- Reads the digits behind a point, of which `count` have been read. Digits beyond the greatest
significand are passed over. -/
def fractionDigits (positive : Bool) (before : Int) : Nat → Nat → Nat → Reader Number
  | 0, _, _ => failHere .invalidNumber
  | fuel + 1, significand, count => do
    match ← peek with
    | some b =>
      if isDigit b then
        let significand' := 10 * significand + digitOf b
        if significand' > greatestSignificand then
          let _ ← peekBehind isDigit
          afterFraction positive significand (before - count)
        else
          advance
          fractionDigits positive before fuel significand' (count + 1)
      else if count = 0 then failThere .invalidNumber
      else afterFraction positive significand (before - count)
    | none =>
      if count = 0 then failThere .endInValue
      else afterFraction positive significand (before - count)

/-- Reads a fraction from its point on. -/
def readFraction (positive : Bool) (significand : Nat) (before : Int) : Reader Number := do
  advance
  fractionDigits positive before ((← remaining) + 1) significand 0

/-- Reads what follows the digits of an integer that is too long: further digits, which only raise
the exponent, a fraction or an exponent. -/
def readLongInteger (positive : Bool) (significand : Nat) : Reader Number := do
  let extra := ((← get).rest.takeWhile isDigit).length
  let b ← peekBehind isDigit
  if b == some (code '.') then readFraction positive significand extra
  else afterFraction positive significand extra

/-- Reads what follows the digits of an integer. A negative integer below the least of 64 bits and
a negative zero are floating point numbers. -/
def afterInteger (positive : Bool) (significand : Nat) : Reader Number := do
  let b ← peek
  if b == some (code '.') then readFraction positive significand 0
  else if isExponentLetter b then readExponent positive significand 0
  else if positive then return .integer (Int.ofNat significand)
  else if 0 < significand && significand ≤ Nat.pow 2 63 then return .integer (-Int.ofNat significand)
  else return signed false significand.toUInt64.toFloat

/-- Reads the digits of an integer, of which `significand` are the first. -/
def integerDigits (positive : Bool) : Nat → Nat → Reader Number
  | 0, significand => afterInteger positive significand
  | fuel + 1, significand => do
    match ← peek with
    | some b =>
      if isDigit b then
        let significand' := 10 * significand + digitOf b
        if significand' > greatestSignificand then readLongInteger positive significand
        else
          advance
          integerDigits positive fuel significand'
      else afterInteger positive significand
    | none => afterInteger positive significand

/-- Whether a byte is a decimal digit. -/
def isDigitByte : Option UInt8 → Bool
  | some b => isDigit b
  | none => false

/-- Reads a number behind its sign. A zero is followed by no digit. -/
def readNumber (positive : Bool) : Reader Number := do
  match ← next with
  | none => failHere .endInValue
  | some b =>
    if b == code '0' then
      if isDigitByte (← peek) then failThere .invalidNumber
      else afterInteger positive 0
    else if isDigit b then integerDigits positive ((← remaining) + 1) (digitOf b)
    else failHere .invalidNumber

/-- Passes over an exponent from its letter on. -/
def skipExponent : Reader Unit := do
  advance
  let sign ← peek
  if sign == some (code '+') || sign == some (code '-') then advance
  if isDigitByte (← next) then
    let _ ← peekBehind isDigit
    return ()
  else failHere .invalidNumber

/-- Passes over a fraction from its point on. -/
def skipFraction : Reader Unit := do
  advance
  if isDigitByte (← peek) then
    let b ← peekBehind isDigit
    if isExponentLetter b then skipExponent
  else failThere .invalidNumber

/-- Passes over a number behind its sign. -/
def skipNumber : Reader Unit := do
  let first ← next
  if isDigitByte first then
    let b ← peek
    if first == some (code '0') && isDigitByte b then failThere .invalidNumber
    let behind ← peekBehind isDigit
    if behind == some (code '.') then skipFraction
    else if isExponentLetter behind then skipExponent
  else failHere .invalidNumber

end Reader

end AbiBindings.Json
