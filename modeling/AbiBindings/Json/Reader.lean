import AbiBindings.Json.Fault

/-!
# Reading a document byte by byte

A `Cursor` stands between two bytes of a document that is delivered all at once or as a stream.
Looking at the next byte takes it from the stream, so in a stream the position of a fault counts a
byte that was only looked at; otherwise such a fault is told one byte ahead of the cursor where the
byte itself is wrong, and at the cursor where it is not.

A `Reader` moves the cursor and gives a value or a fault. It leaves a cursor in both cases: the
position of some faults depends on what is read after them.
-/

set_option autoImplicit false

namespace AbiBindings.Json

/-- How a document is delivered. -/
inductive Delivery where
  /-- All at once, as bytes. -/
  | bytes
  /-- All at once, as text, so that strings need no check. -/
  | text
  /-- Byte by byte; with a failure, the device fails behind the last byte. -/
  | stream (failure : Option String)
  deriving DecidableEq, Repr

/-- A place in a document. -/
structure Cursor where
  /-- The bytes behind the cursor. -/
  rest : List UInt8
  /-- The position behind the bytes that were read. -/
  position : Position
  /-- Whether the next byte has been taken from a stream already. -/
  taken : Bool
  /-- How the document is delivered. -/
  delivery : Delivery

namespace Cursor

/-- The cursor before a document. -/
def start (delivery : Delivery) (document : List UInt8) : Cursor :=
  ⟨document, ⟨1, 0⟩, false, delivery⟩

/-- The position one byte ahead, or at the end of the document. -/
def ahead (c : Cursor) : Position :=
  match c.rest with
  | b :: _ => c.position.after b
  | [] => c.position

/-- The position of the bytes that were read or taken. -/
def here (c : Cursor) : Position :=
  if c.taken then c.ahead else c.position

/-- The position of the byte that was looked at. -/
def there (c : Cursor) : Position :=
  match c.delivery with
  | .stream _ => c.here
  | _ => c.ahead

/-- The cursor behind the next byte. -/
def advance (c : Cursor) : Cursor :=
  match c.rest with
  | b :: rest => { c with rest := rest, position := c.position.after b, taken := false }
  | [] => c

/-- The cursor behind all bytes of a class at the front. -/
def advanceWhile (p : UInt8 → Bool) (c : Cursor) : Cursor :=
  let passed := c.rest.takeWhile p
  { c with
    rest := c.rest.dropWhile p
    position := c.position.through passed
    taken := c.taken && passed.isEmpty }

end Cursor

/-- A step through a document. -/
abbrev Reader := ExceptT Fault (StateM Cursor)

namespace Reader

/-- Gives up with a problem whose position is not known yet. -/
def giveUp {α : Type} (problem : Problem) : Reader α :=
  throw ⟨problem, none⟩

/-- Gives up at the bytes that were read. -/
def failHere {α : Type} (problem : Problem) : Reader α := do
  throw ⟨problem, some (← get).here⟩

/-- Gives up at the byte that was looked at. -/
def failThere {α : Type} (problem : Problem) : Reader α := do
  throw ⟨problem, some (← get).there⟩

/-- Gives up a number of bytes before those that were read last, on the same line. -/
def failBehind {α : Type} (problem : Problem) (bytes : Nat) : Reader α := do
  let position := (← get).here
  throw ⟨problem, some { position with column := position.column - bytes }⟩

/-- Looks at the next byte, if there is one. -/
def peek : Reader (Option UInt8) := do
  let c ← get
  match c.rest, c.delivery with
  | b :: _, .stream _ => do
    set { c with taken := true }
    return some b
  | b :: _, _ => return some b
  | [], .stream (some failure) => giveUp (.deviceFailure failure)
  | [], _ => return none

/-- Passes over the byte that was looked at. -/
def advance : Reader Unit :=
  modify Cursor.advance

/-- Reads the next byte, if there is one. -/
def next : Reader (Option UInt8) := do
  let b ← peek
  advance
  return b

/-- Passes over all bytes of a class and looks at the byte behind them. -/
def peekBehind (p : UInt8 → Bool) : Reader (Option UInt8) := do
  modify (Cursor.advanceWhile p)
  peek

/-- Whether a byte is a blank of JSON. -/
def isBlank (b : UInt8) : Bool :=
  b == 0x20 || b == 0x09 || b == 0x0A || b == 0x0D

/-- Passes over blanks and looks at the byte behind them. -/
def peekToken : Reader (Option UInt8) :=
  peekBehind isBlank

/-- Whether a byte is a decimal digit. -/
def isDigit (b : UInt8) : Bool :=
  0x30 ≤ b && b ≤ 0x39

/-- A byte by its character. -/
def code (c : Char) : UInt8 :=
  c.toNat.toUInt8

/-- A reader whose faults without a position are told at the cursor it leaves. -/
def located {α : Type} (reader : Reader α) : Reader α := fun c =>
  match reader c with
  | (.error ⟨problem, none⟩, c') => (.error ⟨problem, some c'.here⟩, c')
  | result => result

/-- A reader and what has to follow it, which is read after a fault, too. The fault of the first
wins. -/
def followedBy {α : Type} (reader : Reader α) (closing : Reader Unit) : Reader α := fun c =>
  match reader c with
  | (.ok a, c') =>
    match closing c' with
    | (.ok _, c'') => (.ok a, c'')
    | (.error fault, c'') => (.error fault, c'')
  | (.error fault, c') => (.error fault, (closing c').2)

/-- The number of bytes behind the cursor. -/
def remaining : Reader Nat :=
  return (← get).rest.length

/-- Reads the given characters. -/
def expectWord : List Char → Reader Unit
  | [] => return ()
  | c :: rest => do
    match ← next with
    | none => failHere .endInValue
    | some b => if b == code c then expectWord rest else failHere .expectedWord

end Reader

end AbiBindings.Json
