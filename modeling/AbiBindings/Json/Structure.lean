import AbiBindings.Json.Skip

/-!
# Reading values of a known kind

Readers for strings, truth values, names out of a list, arrays and records. A record is an object
with known fields, or an array of their values in order. Arrays and objects that are read this way
nest to a limited depth: each reader of one is given the number of levels that remain.
-/

set_option autoImplicit false

namespace AbiBindings.Json.Reader

/-- The number of levels of arrays and objects that can be read. -/
def levels : Nat := 128

/-- Reads the value ahead as far as its description needs. -/
def describe : Reader Found := do
  match ← peek with
  | none => failThere .expectedValue
  | some b =>
    if b == code 'n' then
      advance
      expectWord ['u', 'l', 'l']
      return .null
    else if b == code 't' then
      advance
      expectWord ['r', 'u', 'e']
      return .boolean true
    else if b == code 'f' then
      advance
      expectWord ['a', 'l', 's', 'e']
      return .boolean false
    else if b == code '-' then
      advance
      return (← readNumber false).found
    else if isDigit b then
      return (← readNumber true).found
    else if b == code '"' then
      advance
      return .string (← readString)
    else if b == code '[' then return .sequence
    else if b == code '\x7b' then return .object
    else failThere .expectedValue

/-- Gives up because the value ahead is not of the kind that is expected. A device that fails while
the value is read is told at the place where it failed. -/
def wrongKind {α : Type} (expected : String) : Reader α :=
  located do giveUp (.wrongKind (← describe) expected)

/-- Looks at the first byte of a value. -/
def peekValue : Reader UInt8 := do
  match ← peekToken with
  | some b => return b
  | none => failThere .endInValue

/-- Reads a string and what `use` makes of it. -/
def stringOf {α : Type} (expected : String) (use : String → Reader α) : Reader α := do
  if (← peekValue) == code '"' then
    advance
    let s ← readString
    located (use s)
  else wrongKind expected

/-- Reads a string. -/
def string : Reader String :=
  stringOf "a string" pure

/-- Reads a truth value. -/
def boolean : Reader Bool := do
  let b ← peekValue
  if b == code 't' then
    advance
    expectWord ['r', 'u', 'e']
    return true
  else if b == code 'f' then
    advance
    expectWord ['a', 'l', 's', 'e']
    return false
  else wrongKind "a boolean"

/-- Reads `null`. -/
def unit : Reader Unit := do
  if (← peekValue) == code 'n' then
    advance
    expectWord ['u', 'l', 'l']
  else wrongKind "unit"

/-- Reads `null` or a value. -/
def optional {α : Type} (value : Reader α) : Reader (Option α) := do
  if (← peekToken) == some (code 'n') then
    advance
    expectWord ['u', 'l', 'l']
    return none
  else return some (← value)

/-- Enters an array or an object, if enough levels remain, and passes over its bracket. -/
def enter (remaining : Nat) : Reader Unit := do
  if remaining ≤ 1 then failThere .tooDeep else advance

/-- Whether the next token closes an array. It does not if the device fails before it. -/
def bracketAhead : Reader Bool := fun c =>
  match peekToken c with
  | (.ok b, c') => (.ok (b == some (code ']')), c')
  | (.error _, c') => (.ok false, c')

/-- Reads the end of an array. -/
def endArray : Reader Unit := do
  match ← peekToken with
  | none => failThere .endInArray
  | some b =>
    if b == code ']' then advance
    else if b == code ',' then
      advance
      if ← bracketAhead then failThere .trailingComma else failThere .trailingCharacters
    else failThere .trailingCharacters

/-- Reads the end of an object. -/
def endObject : Reader Unit := do
  match ← peekToken with
  | none => failThere .endInObject
  | some b =>
    if b == code '\x7d' then advance
    else if b == code ',' then failThere .trailingComma
    else failThere .trailingCharacters

/-- Whether another element of an array follows. All but the first stand behind a comma. -/
def hasElement (first : Bool) : Reader Bool := do
  match ← peekToken with
  | none => failThere .endInArray
  | some b =>
    if b == code ']' then return false
    else if first then return true
    else if b == code ',' then
      advance
      match ← peekToken with
      | none => failThere .endInValue
      | some b => if b == code ']' then failThere .trailingComma else return true
    else failThere .expectedCommaOrBracket

/-- Reads the next element of an array, if there is one. -/
def element? {α : Type} (first : Bool) (value : Reader α) : Reader (Option α) := do
  if ← hasElement first then return some (← value) else return none

/-- Whether another member of an object follows, looking at the quote of its key. All but the first
stand behind a comma. -/
def hasMember (first : Bool) : Reader Bool := do
  match ← peekToken with
  | none => failThere .endInObject
  | some b =>
    if b == code '\x7d' then return false
    else if first then
      if b == code '"' then return true else failThere .keyNotString
    else if b == code ',' then
      advance
      match ← peekToken with
      | none => failThere .endInValue
      | some b =>
        if b == code '"' then return true
        else if b == code '\x7d' then failThere .trailingComma
        else failThere .keyNotString
    else failThere .expectedCommaOrBrace

/-- Reads the key of the next member of an object, if there is one. -/
def key? (first : Bool) : Reader (Option String) := do
  if ← hasMember first then
    advance
    return some (← readString)
  else return none

/-- Reads the colon between a key and its value. -/
def colon : Reader Unit := do
  match ← peekToken with
  | none => failThere .endInObject
  | some b => if b == code ':' then advance else failThere .expectedColon

/-- Reads elements within `fuel` steps, up to the end of the array. -/
def elements {α : Type} (value : Reader α) : Nat → Bool → Reader (List α)
  | 0, _ => return []
  | fuel + 1, first => do
    match ← element? first value with
    | none => return []
    | some a => return a :: (← elements value fuel false)

/-- Reads an array of values. -/
def array {α : Type} (remaining : Nat) (value : Reader α) : Reader (List α) := do
  if (← peekValue) == code '[' then
    located do
      enter remaining
      followedBy (do elements value ((← Reader.remaining) + 1) true) endArray
  else wrongKind "a sequence"

/-- Reads a name out of a list of choices. -/
def name {α : Type} (choices : List (String × α)) : Reader α :=
  stringOf "variant identifier" fun s =>
    match choices.lookup s with
    | some a => pure a
    | none => giveUp (.unknownName s (choices.map Prod.fst))

/-- Looks for the quote of the only key of an object. -/
def nameAhead : Reader Unit := do
  match ← peekToken with
  | none => failThere .endInObject
  | some b =>
    if b == code '"' then return ()
    else if b == code '\x7d' then failThere .expectedValue
    else failThere .keyNotString

/-- Reads a name out of a list of choices, or an object whose only member has that name and the
value `null`. -/
def choice {α : Type} (remaining : Nat) (choices : List (String × α)) : Reader α := do
  match ← peekToken with
  | none => failThere .endInValue
  | some b =>
    if b == code '"' then name choices
    else if b == code '\x7b' then
      enter remaining
      nameAhead
      let a ← name choices
      colon
      unit
      match ← peekToken with
      | none => failHere .endInObject
      | some b =>
        if b == code '\x7d' then
          advance
          return a
        else failHere .expectedValue
    else failThere .expectedValue

/-- Reads the members of an object within `fuel` steps. `member` reads the value of a known key,
behind the colon, into what has been read so far; it refuses a key that was read before, and
knows nothing about an unknown key. -/
def members {σ : Type} (known : σ → String → Option (Except Problem (Reader σ))) :
    Nat → Bool → σ → Reader σ
  | 0, _, state => return state
  | fuel + 1, first, state => do
    match ← key? first with
    | none => return state
    | some key =>
      match known state key with
      | some (.ok value) => do
        colon
        members known fuel false (← value)
      | some (.error problem) => giveUp problem
      | none => do
        colon
        skipValue
        members known fuel false state

/-- Reads a record as an array or as an object. -/
def record {α : Type} (remaining : Nat) (expected : String) (byPosition byName : Reader α) :
    Reader α := do
  let b ← peekValue
  if b == code '[' then
    located do
      enter remaining
      followedBy byPosition endArray
  else if b == code '\x7b' then
    located do
      enter remaining
      followedBy byName endObject
  else wrongKind expected

/-- Reads a whole document with blanks around it. -/
def document {α : Type} (value : Reader α) : Reader α := do
  let a ← value
  match ← peekToken with
  | some _ => failThere .trailingCharacters
  | none => return a

end AbiBindings.Json.Reader
