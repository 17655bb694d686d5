/-!
# Keccak-256

The sponge over the permutation of 25 lanes of 64 bits, with a rate of 136 bytes and the padding
that starts with a 1 bit right behind the message. The lane at column `x` and row `y` stands at
place `x + 5 * y`. Each step of a round is a definition of its own.
-/

set_option autoImplicit false

namespace AbiBindings.Hash

/-- The 25 lanes of the permutation. -/
abbrev State := Vector UInt64 25

/-- A hash value of 32 bytes. -/
abbrev Digest := Vector UInt8 32

namespace Keccak

/-- The lane at a column and a row, both taken modulo five. -/
def lane (a : State) (x y : Nat) : UInt64 :=
  a.get ⟨x % 5 + 5 * (y % 5), by omega⟩

/-- The state with the lane `f x y` at column `x` and row `y`. -/
def tabulate (f : Nat → Nat → UInt64) : State :=
  .ofFn fun i => f (i.val % 5) (i.val / 5)

/-- A lane rotated to the left. -/
def rotate (lane : UInt64) (n : UInt64) : UInt64 :=
  (lane <<< n) ||| (lane >>> (64 - n))

/-- The parity of a column. -/
def parity (a : State) (x : Nat) : UInt64 :=
  lane a x 0 ^^^ lane a x 1 ^^^ lane a x 2 ^^^ lane a x 3 ^^^ lane a x 4

/-- Adds to each lane the parities of the two columns beside it. -/
def theta (a : State) : State :=
  let parities : Vector UInt64 5 := .ofFn fun x => parity a x
  let column (x : Nat) : UInt64 := parities.get ⟨x % 5, by omega⟩
  let change (x : Nat) : UInt64 := column (x + 4) ^^^ rotate (column (x + 1)) 1
  tabulate fun x y => lane a x y ^^^ change x

/-- How far the lane at each place is rotated. -/
def offsets : Vector UInt64 25 := #v[
  0, 1, 62, 28, 27,
  36, 44, 6, 55, 20,
  3, 10, 43, 25, 39,
  41, 45, 15, 21, 8,
  18, 2, 61, 56, 14]

/-- Rotates each lane by the offset of its place. -/
def rho (a : State) : State :=
  tabulate fun x y => rotate (lane a x y) (lane offsets x y)

/-- Moves each lane to another place. -/
def pi (a : State) : State :=
  tabulate fun x y => lane a (x + 3 * y) x

/-- Combines each lane with the two lanes behind it in its row. -/
def chi (a : State) : State :=
  tabulate fun x y => lane a x y ^^^ (~~~ (lane a (x + 1) y) &&& lane a (x + 2) y)

/-- Adds the constant of a round to the first lane. -/
def iota (constant : UInt64) (a : State) : State :=
  a.set 0 (a[0] ^^^ constant)

/-- One round of the permutation. -/
def round (a : State) (constant : UInt64) : State :=
  iota constant (chi (pi (rho (theta a))))

/-- The constants of the 24 rounds. -/
def roundConstants : List UInt64 := [
  0x0000000000000001, 0x0000000000008082, 0x800000000000808a, 0x8000000080008000,
  0x000000000000808b, 0x0000000080000001, 0x8000000080008081, 0x8000000000008009,
  0x000000000000008a, 0x0000000000000088, 0x0000000080008009, 0x000000008000000a,
  0x000000008000808b, 0x800000000000008b, 0x8000000000008089, 0x8000000000008003,
  0x8000000000008002, 0x8000000000000080, 0x000000000000800a, 0x800000008000000a,
  0x8000000080008081, 0x8000000000008080, 0x0000000080000001, 0x8000000080008008]

/-- The permutation. -/
def permute (a : State) : State :=
  roundConstants.foldl round a

/-- The number of bytes that are taken in between two permutations. -/
def rate : Nat := 136

/-- The padding behind a message of a given length. -/
def padding (length : Nat) : List UInt8 :=
  let zeros := rate - 1 - length % rate
  if zeros = 0 then [0x81] else 0x01 :: List.replicate (zeros - 1) 0 ++ [0x80]

/-- The lane whose bytes are given, the least significant first. -/
def laneOfBytes (bytes : List UInt8) : UInt64 :=
  bytes.foldr (fun b n => (n <<< 8) ||| b.toUInt64) 0

/-- Adds a block of bytes to a state. -/
def addBlock (a : State) (block : Array UInt8) : State :=
  tabulate fun x y =>
    let start := 8 * (x + 5 * y)
    lane a x y ^^^ laneOfBytes (block.extract start (start + 8)).toList

/-- Takes in a number of blocks. -/
def absorb : Nat → List UInt8 → State → State
  | 0, _, a => a
  | blocks + 1, bytes, a =>
    absorb blocks (bytes.drop rate) (permute (addBlock a (bytes.take rate).toArray))

/-- The first 32 bytes of a state. -/
def digest (a : State) : Digest :=
  .ofFn fun i => (lane a (i.val / 8) 0 >>> (8 * (i.val % 8)).toUInt64).toUInt8

end Keccak

/-- The Keccak-256 hash of a byte sequence. -/
def keccak256 (bytes : List UInt8) : Digest :=
  let padded := bytes ++ Keccak.padding bytes.length
  Keccak.digest (Keccak.absorb (padded.length / Keccak.rate) padded (.replicate 25 0))

/-- The first four bytes of a hash value. -/
def selector (d : Digest) : Vector UInt8 4 :=
  .ofFn fun i => d.get ⟨i.val, by omega⟩

end AbiBindings.Hash
