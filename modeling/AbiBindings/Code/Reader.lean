import AbiBindings.Code.Lexer
import AbiBindings.Code.SyntaxFault

/-!
# Reading code token by token

A `Reader` takes tokens from the front of a list and gives what it made of them, or the fault it
met. What is made is mostly code again: the tokens as they are written, spaced anew.

A group is read from within. Tokens that stay behind in a group are not a fault yet, because one
met later is told instead; they are remembered and refused by `readAll` at the very end.
-/

set_option autoImplicit false

namespace AbiBindings.Code

/-- Code as a list of tokens. -/
abbrev Tokens := List Token

/-- Whether tokens start with a run of punctuation characters. All but the last are joined to the
next; the last may be joined to whatever follows. -/
def startsWithMarks : List Char → Tokens → Bool
  | [], _ => true
  | [c], .mark d _ :: _ => d == c
  | c :: cs, .mark d true :: rest => d == c && startsWithMarks cs rest
  | _, _ => false

/-- Whether tokens start with a word. -/
def startsWithWord (word : String) : Tokens → Bool
  | .word w :: _ => w == word
  | _ => false

/-- Whether tokens start with one of some words. -/
def startsWithWords (words : List String) : Tokens → Bool
  | .word w :: _ => words.contains w
  | _ => false

/-- Whether tokens start with an identifier. -/
def startsWithIdentifier : Tokens → Bool
  | .word w :: _ => !isReserved w
  | _ => false

/-- Whether tokens start with a lifetime. -/
def startsWithLifetime : Tokens → Bool
  | .mark '\'' true :: .word _ :: _ => true
  | _ => false

/-- Whether tokens start with a group in brackets of a kind. -/
def startsWithGroup (bracket : Bracket) : Tokens → Bool
  | .group b _ :: _ => b == bracket
  | _ => false

/-- The tokens behind the first one. A lifetime counts as one token. -/
def behindOne : Tokens → Tokens
  | .mark '\'' true :: .word _ :: rest => rest
  | _ :: rest => rest
  | [] => []

/-- The tokens `::`. -/
def colons : Tokens := marks [':', ':']

/-- Whether tokens start with `::`. -/
def startsWithColons (tokens : Tokens) : Bool :=
  startsWithMarks [':', ':'] tokens

/-- A free comma. -/
def comma : Token := .mark ',' false

/-- What a reader reads from: the tokens that are left, and whether tokens have stayed behind in a
group. -/
structure Source where
  rest : Tokens
  leftover : Bool

/-- A step through tokens. -/
abbrev Reader := StateT Source (Except SyntaxFault)

namespace Reader

/-- The tokens ahead. -/
def ahead : Reader Tokens :=
  return (← get).rest

/-- Passes over some tokens. -/
def skip (count : Nat) : Reader Unit :=
  modify fun source => { source with rest := source.rest.drop count }

/-- Gives up because something else was expected at the next token or at the end. -/
def expected {α : Type} (what : String) : Reader α := do
  throw (.expected what (← ahead).isEmpty)

/-- A piece of code in the words of a fault. -/
def quoted (code : String) : String :=
  "`" ++ code ++ "`"

/-- Reads a run of punctuation characters. -/
def mark (cs : List Char) : Reader Tokens := do
  if startsWithMarks cs (← ahead) then
    skip cs.length
    return marks cs
  else throw (.expected (quoted (String.ofList cs)) false)

/-- Reads a run of punctuation characters if it stands ahead. -/
def mark? (cs : List Char) : Reader Tokens := do
  if startsWithMarks cs (← ahead) then mark cs else return []

/-- Reads a given word. -/
def word (w : String) : Reader Tokens := do
  if startsWithWord w (← ahead) then
    skip 1
    return [.word w]
  else expected (quoted w)

/-- Reads a given word if it stands ahead. -/
def word? (w : String) : Reader Tokens := do
  if startsWithWord w (← ahead) then word w else return []

/-- Reads a word, be it reserved or not. -/
def anyWord : Reader Tokens := do
  match ← ahead with
  | .word w :: _ =>
    skip 1
    return [.word w]
  | _ => expected "identifier"

/-- Reads an identifier. -/
def identifier : Reader Tokens := do
  if startsWithIdentifier (← ahead) then anyWord else expected "identifier"

/-- Reads a lifetime. -/
def lifetime : Reader Tokens := do
  match ← ahead with
  | .mark '\'' true :: .word name :: _ =>
    skip 2
    return [.mark '\'' true, .word name]
  | _ => expected "lifetime"

/-- How a kind of brackets is called. -/
def bracketName : Bracket → String
  | .round => "parentheses"
  | .square => "square brackets"
  | .curly => "curly braces"

/-- Reads a group in brackets of a kind and gives the tokens within. -/
def group (bracket : Bracket) : Reader Tokens := do
  match ← ahead with
  | .group b body :: _ =>
    if b == bracket then
      skip 1
      return body
    else expected (bracketName bracket)
  | _ => expected (bracketName bracket)

/-- Reads within a group. -/
def within {α : Type} (body : Tokens) (reader : Reader α) : Reader α := fun source =>
  match reader ⟨body, source.leftover⟩ with
  | .ok (a, inner) => .ok (a, ⟨source.rest, inner.leftover || !inner.rest.isEmpty⟩)
  | .error fault => .error fault

/-- Reads items with a comma between two neighbours, within `fuel` steps. A comma may stand behind
the last item, too. Each item comes with whether a comma follows it. -/
def itemsWithin {α : Type} (atEnd : Tokens → Bool) (item : Reader α) :
    Nat → Reader (List (α × Bool))
  | 0 => return []
  | fuel + 1 => do
    if atEnd (← ahead) then return []
    let a ← item
    if atEnd (← ahead) then return [(a, false)]
    let _ ← mark [',']
    return (a, true) :: (← itemsWithin atEnd item fuel)

/-- Reads items up to where `atEnd` holds. A comma takes a token, so there are no more items than
tokens. -/
def items {α : Type} (atEnd : Tokens → Bool) (item : Reader α) : Reader (List (α × Bool)) := do
  itemsWithin atEnd item ((← ahead).length + 1)

/-- The code of items with their commas. -/
def itemCode (items : List (Tokens × Bool)) : Tokens :=
  items.flatMap fun (code, followed) => code ++ if followed then [comma] else []

/-- The words that stand for a segment of a path by themselves. -/
def pathWords : List String := ["super", "self", "crate"]

/-- Reads the segments of a plain path within `fuel` steps. -/
def plainSegments : Nat → Reader Tokens
  | 0 => expected "path segment"
  | fuel + 1 => do
    let name ← anyWord
    if startsWithColons (← ahead) then
      skip 2
      let tokens ← ahead
      if startsWithIdentifier tokens || startsWithWords ("Self" :: pathWords) tokens then
        return name ++ colons ++ (← plainSegments fuel)
      else expected "path segment"
    else return name

/-- Reads a plain path, which has no arguments. -/
def plainPath : Reader Tokens := do
  let root ← mark? [':', ':']
  let tokens ← ahead
  if startsWithIdentifier tokens || startsWithWords ("Self" :: pathWords) tokens then
    return root ++ (← plainSegments (tokens.length + 1))
  else expected "path"

/-- Reads attributes within `fuel` steps. -/
def attributesWithin : Nat → Reader Tokens
  | 0 => return []
  | fuel + 1 => do
    if startsWithMarks ['#'] (← ahead) then
      let sign ← mark ['#']
      let body ← group .square
      let content ← within body do
        let path ← plainPath
        let rest ← ahead
        skip rest.length
        return path ++ rest
      return sign ++ square content :: (← attributesWithin fuel)
    else return []

/-- Reads the attributes of an item: hash signs with a path and any tokens in square brackets. -/
def attributes : Reader Tokens := do
  attributesWithin ((← ahead).length + 1)

/-- Whether a literal is a number. -/
def isNumber (text : String) : Bool :=
  text.toList.head?.any fun c => '0' ≤ c && c ≤ '9'

/-- A fault for literals that end with a NUL character: nothing is known about them. -/
def refuseTerminated (text : String) : Reader Unit := do
  if text.toList.head? == some 'c' then throw (.unreadable text)

/-- Reads a literal if one stands ahead. A truth value and a negative number are literals, too. -/
def literal? : Reader (Option Tokens) := do
  match ← ahead with
  | .literal text :: _ =>
    refuseTerminated text
    skip 1
    return some [.literal text]
  | .mark '-' _ :: .literal text :: _ =>
    if isNumber text then
      skip 2
      return some [.mark '-' false, .literal text]
    else return none
  | .word w :: _ =>
    if w == "true" || w == "false" then
      skip 1
      return some [.word w]
    else return none
  | _ => return none

end Reader

/-- What a reader makes of a text. The text has to be used up, in every group, too. -/
def readAll {α : Type} (reader : Reader α) (s : String) : Except SyntaxFault α :=
  match tokens? s with
  | none => .error .noTokens
  | some tokens =>
    match reader ⟨tokens, false⟩ with
    | .error fault => .error fault
    | .ok (a, source) =>
      if source.leftover || !source.rest.isEmpty then .error .unexpected else .ok a

end AbiBindings.Code
