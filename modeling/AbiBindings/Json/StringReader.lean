import AbiBindings.Json.Reader
import AbiBindings.Text.Hex
import AbiBindings.Text.Utf8

/-!
# Strings of a document

`readString` reads a string behind its opening quote: no control characters, eight escapes by one
letter and code points by four hexadecimal digits, in pairs beyond the first plane. `skipString`
passes over a string and checks no more than where it ends.
-/

set_option autoImplicit false

namespace AbiBindings.Json.Reader

/-- Reads the next byte of a string. -/
def stringByte : Reader UInt8 := do
  match ← next with
  | some b => return b
  | none => failHere .endInString

/-- Looks at the next byte of a string. -/
def peekStringByte : Reader UInt8 := do
  match ← peek with
  | some b => return b
  | none => failHere .endInString

/-- Reads four hexadecimal digits. -/
def hexEscape : Reader Nat := do
  let a ← stringByte
  let b ← stringByte
  let c ← stringByte
  let d ← stringByte
  let digit (b : UInt8) : Option Nat := Text.hexValue? (Char.ofNat b.toNat)
  match digit a, digit b, digit c, digit d with
  | some a, some b, some c, some d => return 4096 * a + 256 * b + 16 * c + d
  | _, _, _, _ => failHere .invalidEscape

/-- Whether a code unit is the first of a pair. -/
def isLeading (n : Nat) : Bool :=
  0xD800 ≤ n && n ≤ 0xDBFF

/-- Whether a code unit is the second of a pair. -/
def isTrailing (n : Nat) : Bool :=
  0xDC00 ≤ n && n ≤ 0xDFFF

/-- Reads one byte that has to follow the first half of a pair. -/
def pairByte (expected : Char) : Reader Unit := do
  let b ← peekStringByte
  advance
  if b == code expected then return () else failHere .unfinishedSurrogate

/-- Reads the code point of an escape behind its `\u`. -/
def codePoint : Reader Char := do
  let n ← hexEscape
  if isTrailing n then failHere .loneSurrogate
  else if isLeading n then
    pairByte '\\'
    pairByte 'u'
    let m ← hexEscape
    if isTrailing m then
      return Char.ofNat (0x10000 + (n - 0xD800) * 0x400 + (m - 0xDC00))
    else failHere .loneSurrogate
  else return Char.ofNat n

/-- The character that an escape of one letter stands for. -/
def shortEscape? (b : UInt8) : Option Char :=
  if b == code '"' then some '"'
  else if b == code '\\' then some '\\'
  else if b == code '/' then some '/'
  else if b == code 'b' then some '\x08'
  else if b == code 'f' then some '\x0c'
  else if b == code 'n' then some '\n'
  else if b == code 'r' then some '\r'
  else if b == code 't' then some '\t'
  else none

/-- Reads an escape behind its backslash. -/
def escape : Reader Char := do
  let b ← stringByte
  match shortEscape? b with
  | some c => return c
  | none => if b == code 'u' then codePoint else failHere .invalidEscape

/-- Reads the bytes of a string within `fuel` steps, up to its closing quote. `before` holds the
bytes so far, the last one first. -/
def stringBytes : Nat → List UInt8 → Reader (List UInt8)
  | 0, _ => failHere .endInString
  | fuel + 1, before => do
    let b ← stringByte
    if b == code '"' then return before.reverse
    else if b == code '\\' then
      let c ← escape
      stringBytes fuel ((Text.Utf8.encodeChar c).reverse ++ before)
    else if b < 0x20 then failHere .controlCharacter
    else stringBytes fuel (b :: before)

/-- Reads a string behind its opening quote. A string that is not UTF-8 is told as far before its
end as there are bytes from the first wrong one on, where an escape counts as what it stands for. -/
def readString : Reader String := do
  let bytes ← stringBytes ((← remaining) + 1) []
  match (← get).delivery, Text.Utf8.text? bytes with
  | _, some s => return s
  | .text, none => return Text.Utf8.textLossy bytes
  | _, none => failBehind .invalidCodePoint (Text.Utf8.undecoded bytes).length

/-- Passes over an escape behind its backslash. -/
def skipEscape : Reader Unit := do
  let b ← stringByte
  if (shortEscape? b).isSome then return ()
  else if b == code 'u' then
    let _ ← hexEscape
    return ()
  else failHere .invalidEscape

/-- Passes over a string within `fuel` steps. -/
def skipStringBytes : Nat → Reader Unit
  | 0 => failHere .endInString
  | fuel + 1 => do
    let b ← peekStringByte
    if b == code '"' then advance
    else if b == code '\\' then
      advance
      skipEscape
      skipStringBytes fuel
    else if b < 0x20 then failHere .controlCharacter
    else
      advance
      skipStringBytes fuel

/-- Passes over a string behind its opening quote. -/
def skipString : Reader Unit := do
  skipStringBytes ((← remaining) + 1)

end AbiBindings.Json.Reader
