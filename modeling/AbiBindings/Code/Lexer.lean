import AbiBindings.Code.Literal
import AbiBindings.Code.LiteralScanner

/-!
# From text to tokens

`tokens?` reads a text as a list of token trees. It fails if some characters begin no token, or if
brackets do not match.
-/

set_option autoImplicit false

namespace AbiBindings.Code

/-- The punctuation characters. -/
def punctuation : List Char :=
  "~!@#$%^&*-=+|;:,<.>/?'".toList

/-- The punctuation character at the front of a text. The slash of a comment is none. -/
def punctuation? : List Char → Option (Char × List Char)
  | '/' :: '/' :: _ => none
  | '/' :: '*' :: _ => none
  | c :: rest => if punctuation.contains c then some (c, rest) else none
  | [] => none

/-- The punctuation mark at the front of a text and the text behind it. A quote is the mark of a
lifetime and needs a name behind it which no second quote follows. -/
def mark? (cs : List Char) : Option (Token × List Char) :=
  match punctuation? cs with
  | none => none
  | some (c, rest) =>
    if c == '\'' then
      match takeIdentifier? rest with
      | some (_, '\'' :: _) => none
      | some (name, '#' :: _) => if name.startsWith "r#" then some (.mark c true, rest) else none
      | some _ => some (.mark c true, rest)
      | none => none
    else some (.mark c (punctuation? rest).isSome, rest)

/-- The beginnings of literals, which no identifier has. -/
def literalOpenings : List String :=
  ["r\"", "r#\"", "r##", "b\"", "b'", "br\"", "br#", "c\"", "cr\"", "cr#"]

/-- The word at the front of a text and the text behind it. -/
def word? (cs : List Char) : Option (Token × List Char) :=
  if literalOpenings.any (fun opening => opening.toList.isPrefixOf cs) then none
  else (takeIdentifier? cs).map fun (name, rest) => (.word name, rest)

/-- The token at the front of a text that is not a group, and the text behind it. -/
def leaf? (cs : List Char) : Option (Token × List Char) :=
  match LiteralScanner.afterLiteral? cs with
  | some rest => some (.literal (String.ofList (cs.take (cs.length - rest.length))), rest)
  | none =>
    match mark? cs with
    | some found => some found
    | none => word? cs

/-- A documentation comment at the front of a text: its own text, whether it documents what it
stands in, and what follows it. A carriage return before the line feed of a line is not part of
the line. -/
def comment? (cs : List Char) : Option (List Char × Bool × List Char) :=
  let line (inner : Bool) (rest : List Char) :=
    let text := rest.takeWhile (· != '\n')
    let behind := afterLine rest
    let bare := if text.getLast? == some '\r' && !behind.isEmpty then text.dropLast else text
    some (bare, inner, behind)
  let block (inner : Bool) (rest : List Char) :=
    (afterBlockComment 1 rest).map fun behind =>
      ((rest.take (rest.length - behind.length - 2)).drop 1, inner, behind)
  match cs with
  | '/' :: '/' :: '!' :: rest => line true rest
  | '/' :: '*' :: '!' :: rest => block true ('!' :: rest)
  | '/' :: '/' :: '/' :: rest => if rest.head? == some '/' then none else line false rest
  | '/' :: '*' :: '*' :: rest =>
    if rest.head? == some '*' then none else block false ('*' :: rest)
  | _ => none

/-- Whether every carriage return of a text stands before a line feed. -/
def hasWholeBreaks : List Char → Bool
  | '\r' :: '\n' :: rest => hasWholeBreaks rest
  | '\r' :: _ => false
  | _ :: rest => hasWholeBreaks rest
  | [] => true

/-- A documentation comment as the attribute that it stands for, and what follows it. -/
def docComment? (cs : List Char) : Option (List Token × List Char) :=
  match comment? cs with
  | none => none
  | some (text, inner, rest) =>
    if hasWholeBreaks text then
      let content := [.word "doc", .mark '=' false, stringLiteral (String.ofList text)]
      some (.mark '#' false :: ((if inner then [.mark '!' false] else []) ++ [square content]), rest)
    else none

/-- The bracket that a character opens. -/
def opened? (c : Char) : Option Bracket :=
  if c == '(' then some .round
  else if c == '[' then some .square
  else if c == '\x7b' then some .curly
  else none

/-- The bracket that a character closes. -/
def closed? (c : Char) : Option Bracket :=
  if c == ')' then some .round
  else if c == ']' then some .square
  else if c == '\x7d' then some .curly
  else none

/-- Reads tokens within `fuel` steps. `outer` holds the groups that are open, the innermost first,
each with the tokens before it; `before` the tokens of the innermost group, the last one first. -/
def readTokens : Nat → List (Bracket × List Token) → List Token → List Char → Option (List Token)
  | 0, _, _, _ => none
  | fuel + 1, outer, before, text =>
    let cs := skipTrivia text
    match docComment? cs with
    | some (comment, rest) => readTokens fuel outer (comment.reverse ++ before) rest
    | none =>
      match cs with
      | [] => if outer.isEmpty then some before.reverse else none
      | c :: rest =>
        match opened? c, closed? c with
        | some bracket, _ => readTokens fuel ((bracket, before) :: outer) [] rest
        | none, some bracket =>
          match outer with
          | (opening, enclosing) :: outer' =>
            if opening = bracket then
              readTokens fuel outer' (.group bracket before.reverse :: enclosing) rest
            else none
          | [] => none
        | none, none =>
          match leaf? cs with
          | some (token, rest') => readTokens fuel outer (token :: before) rest'
          | none => none

/-- The tokens of a text. -/
def tokens? (s : String) : Option (List Token) :=
  let cs := dropByteOrderMark s.toList
  readTokens (cs.length + 1) [] [] cs

end AbiBindings.Code
