import AbiBindings.Json.NumberReader
import AbiBindings.Json.StringReader

/-!
# Passing over values

`skipValue` passes over a value of any kind. It checks the form of the value and nothing else, and
sets no limit to its depth: the brackets that are open are kept in a list.
-/

set_option autoImplicit false

namespace AbiBindings.Json.Reader

/-- A bracket that is open. -/
inductive Frame where
  | array
  | object
  deriving DecidableEq

/-- The byte that closes a bracket. -/
def Frame.closing : Frame → UInt8
  | .array => code ']'
  | .object => code '\x7d'

/-- The problem of a document that ends inside a bracket. -/
def Frame.atEnd : Frame → Problem
  | .array => .endInArray
  | .object => .endInObject

/-- The problem of a value that neither a comma nor the closing bracket follows. -/
def Frame.unseparated : Frame → Problem
  | .array => .expectedCommaOrBracket
  | .object => .expectedCommaOrBrace

/-- Passes over a value without parts, or over the bracket that opens one. -/
def skipFront : Reader (Option Frame) := do
  match ← peekToken with
  | none => failThere .endInValue
  | some b =>
    if b == code 'n' then
      advance
      expectWord ['u', 'l', 'l']
      return none
    else if b == code 't' then
      advance
      expectWord ['r', 'u', 'e']
      return none
    else if b == code 'f' then
      advance
      expectWord ['a', 'l', 's', 'e']
      return none
    else if b == code '-' then
      advance
      skipNumber
      return none
    else if isDigit b then
      skipNumber
      return none
    else if b == code '"' then
      advance
      skipString
      return none
    else if b == code '[' then
      advance
      return some .array
    else if b == code '\x7b' then
      advance
      return some .object
    else failThere .expectedValue

/-- Passes over a key and the colon behind it. -/
def skipKey : Reader Unit := do
  match ← peekToken with
  | none => failThere .endInObject
  | some b => if b == code '"' then advance else failThere .keyNotString
  skipString
  match ← peekToken with
  | none => failThere .endInObject
  | some b => if b == code ':' then advance else failThere .expectedColon

/-- Passes over closing brackets, up to the next value within the brackets that stay open. `open_`
holds them, the innermost first; `behindValue` is false right behind an opening bracket. -/
def skipClosings (behindValue : Bool) : List Frame → Reader (List Frame)
  | [] => return []
  | frame :: outer => do
    match ← peekToken with
    | none => failThere frame.atEnd
    | some b =>
      if b == code ',' && behindValue then
        advance
        return frame :: outer
      else if b == frame.closing then
        advance
        skipClosings true outer
      else if behindValue then failThere frame.unseparated
      else return frame :: outer

/-- Passes over values within `fuel` steps, until no bracket is open. -/
def skipValues : Nat → List Frame → Reader Unit
  | 0, _ => failThere .endInValue
  | fuel + 1, outer => do
    let opened ← skipFront
    let frames := match opened with
      | some frame => frame :: outer
      | none => outer
    match ← skipClosings opened.isNone frames with
    | [] => return ()
    | .array :: rest => skipValues fuel (.array :: rest)
    | .object :: rest => do
      skipKey
      skipValues fuel (.object :: rest)

/-- Passes over a value. -/
def skipValue : Reader Unit := do
  skipValues ((← remaining) + 1) []

end AbiBindings.Json.Reader
