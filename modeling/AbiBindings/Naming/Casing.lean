import AbiBindings.Code.Identifier
import AbiBindings.Text.Join
import AbiBindings.Text.Numeral
import AbiBindings.Text.Uppercase

/-!
# Names in generated code

`safeName` turns any text into an identifier of ASCII letters, digits and underscores. `snakeName`
writes it in lower case with underscores between words, `pascalName` with a capital at the start
of each word. A word starts at a capital behind a small letter or a digit, and at the last capital
of several if a small letter follows it; digits belong to the word before them.
-/

set_option autoImplicit false

namespace AbiBindings.Naming

open Text (isDigit)

/-- Whether a character is a small ASCII letter. -/
def isSmall (c : Char) : Bool :=
  'a' ≤ c && c ≤ 'z'

/-- Whether a character is a capital ASCII letter. -/
def isCapital (c : Char) : Bool :=
  'A' ≤ c && c ≤ 'Z'

/-- The small letter of a capital one. -/
def smallOf (c : Char) : Char :=
  if isCapital c then Char.ofNat (c.toNat + 32) else c

/-- A character as it may stand in a name. -/
def safeChar (c : Char) : Char :=
  if isSmall c || isCapital c || isDigit c || c == '_' then c else '_'

/-- Characters of a name without regard to reserved words: not empty, not a lone underscore, and
not starting with a digit. -/
def safeChars (cs : List Char) : List Char :=
  match cs.map safeChar with
  | [] => "unnamed".toList
  | ['_'] => ['_', '_']
  | c :: rest => if isDigit c then '_' :: c :: rest else c :: rest

/-- A text as an identifier. A reserved word gets an underscore behind it. -/
def safeName (s : String) : String :=
  let name := String.ofList (safeChars s.toList)
  if Code.isReserved name then name ++ "_" else name

/-- Whether a word starts at a capital, given the characters around it. -/
def startsWord (before : Option Char) (after : Option Char) : Bool :=
  match before with
  | none => false
  | some c => isSmall c || isDigit c || (isCapital c && after.any isSmall)

/-- The characters of a name in lower case, with an underscore before each word but the first.
`before` is the character before them. -/
def snakeChars (before : Option Char) : List Char → List Char
  | [] => []
  | c :: rest =>
    if isCapital c then
      (if startsWord before rest.head? then ['_', smallOf c] else [smallOf c]) ++
        snakeChars (some c) rest
    else c :: snakeChars (some c) rest

/-- A text as an identifier in lower case. -/
def snakeName (s : String) : String :=
  safeName (String.ofList (snakeChars none (safeName s).toList))

/-- A text with its first character in upper case, which may become several characters. -/
def capitalize (s : String) : String :=
  match s.toList with
  | [] => ""
  | c :: rest => String.ofList (Text.upperChars c ++ rest)

/-- A text as an identifier with a capital at the start of each word. -/
def pascalName (s : String) : String :=
  safeName (String.join ((Text.split (· == '_') (snakeName s)).map capitalize))

end AbiBindings.Naming
