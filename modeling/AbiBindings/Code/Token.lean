import AbiBindings.Text.Join

/-!
# Tokens of source code

Source code is a list of token trees: words, literals, punctuation marks and groups in brackets.
`render` writes it on one line. Two tokens are separated by one space, except after a mark that is
joined to the token behind it, as the first half of `::` or the quote of a lifetime is.
-/

set_option autoImplicit false

namespace AbiBindings.Code

/-- The brackets around a group. -/
inductive Bracket where
  | round
  | square
  | curly
  deriving DecidableEq, Repr

/-- A token tree. -/
inductive Token where
  /-- An identifier or a keyword. -/
  | word (text : String)
  /-- A literal, as it is written. -/
  | literal (text : String)
  /-- A punctuation character; `joined` if it belongs together with the token behind it. -/
  | mark (char : Char) (joined : Bool)
  /-- Tokens in brackets. -/
  | group (bracket : Bracket) (body : List Token)

/-- What opens a group. -/
def Bracket.opening : Bracket → String
  | .round => "("
  | .square => "["
  | .curly => "\x7b "

/-- What closes a group. -/
def Bracket.closing : Bracket → String
  | .round => ")"
  | .square => "]"
  | .curly => "\x7d"

/-- What separates a token from the one behind it. -/
def Token.gap : Token → String
  | .mark _ true => ""
  | _ => " "

mutual

/-- The pieces of text that a token is written as. A curly group keeps a space on either side of
its tokens, and a single space if it has none. -/
def Token.pieces : Token → List String
  | .word text => [text]
  | .literal text => [text]
  | .mark char _ => [String.singleton char]
  | .group bracket body =>
    let inner := Token.listPieces body
    let padding := if bracket = .curly ∧ body.isEmpty = false then [" "] else []
    bracket.opening :: (inner ++ padding ++ [bracket.closing])

/-- The pieces of text that a list of tokens is written as. -/
def Token.listPieces : List Token → List String
  | [] => []
  | token :: rest =>
    token.pieces ++ (if rest.isEmpty then [] else [token.gap]) ++ Token.listPieces rest

end

/-- The text of a list of tokens. -/
def render (tokens : List Token) : String :=
  String.join (Token.listPieces tokens)

/-- A run of punctuation characters, each joined to the next and the last one free. -/
def marks : List Char → List Token
  | [] => []
  | [c] => [.mark c false]
  | c :: rest => .mark c true :: marks rest

/-- Whether a character belongs to a word or a number of a written-out phrase. -/
def isPhraseLetter (c : Char) : Bool :=
  c.isAlphanum || c == '_'

/-- The tokens of one word of a phrase. A word that starts with a letter, a digit or an underscore
is one token, a quote before such a word makes a lifetime, and anything else is punctuation. -/
def phraseWord (cs : List Char) : List Token :=
  match cs with
  | [] => []
  | '\'' :: name => [.mark '\'' true, .word (String.ofList name)]
  | c :: _ => if isPhraseLetter c then [.word (String.ofList cs)] else marks cs

/-- The tokens of a phrase of code whose tokens are written with spaces between them. -/
def phrase (text : String) : List Token :=
  (Text.splitAt (· == ' ') text.toList).flatMap phraseWord

/-- Tokens in round brackets. -/
def round (body : List Token) : Token := .group .round body

/-- Tokens in square brackets. -/
def square (body : List Token) : Token := .group .square body

/-- Tokens in curly brackets. -/
def curly (body : List Token) : Token := .group .curly body

/-- Lists of tokens with a comma between two neighbours. -/
def commaSeparated : List (List Token) → List Token
  | [] => []
  | [item] => item
  | item :: rest => item ++ .mark ',' false :: commaSeparated rest

/-- Lists of tokens with a comma behind each. -/
def commaTerminated (items : List (List Token)) : List Token :=
  items.flatMap fun item => item ++ [.mark ',' false]

/-- Lists of tokens with a comma before each. -/
def commaPreceded (items : List (List Token)) : List Token :=
  items.flatMap fun item => .mark ',' false :: item

end AbiBindings.Code
