import AbiBindings.Code.Trivia
import AbiBindings.Text.IdentifierSet

/-!
# Identifiers

`takeWord?` reads the longest identifier or keyword at the front of a text, `takeIdentifier?` also
the raw form `r#name`, which frees a keyword for use as a name. `identifier?` reads a whole text
that consists of one identifier with blanks and comments around it, and refuses the reserved words.
`isIdentifier` asks for the identifier alone, without anything around it.
-/

set_option autoImplicit false

namespace AbiBindings.Code

/-- The words that are not identifiers. -/
def reservedWords : List String := [
  "_", "abstract", "as", "become", "box", "break", "const", "continue", "crate", "do", "else",
  "enum", "extern", "false", "final", "fn", "for", "if", "impl", "in", "let", "loop",
  "macro", "match", "mod", "move", "mut", "override", "priv", "pub", "ref", "return", "Self",
  "self", "static", "struct", "super", "trait", "true", "type", "typeof", "unsafe",
  "unsized", "use", "virtual", "where", "while", "yield"]

/-- Whether a word is reserved. -/
def isReserved (word : String) : Bool :=
  reservedWords.contains word

/-- The words that have no raw form. -/
def wordsWithoutRawForm : List String := ["_", "super", "self", "Self", "crate"]

/-- The longest identifier or keyword at the front of a text, and the text behind it. -/
def takeWord? : List Char → Option (String × List Char)
  | [] => none
  | c :: rest =>
    if Text.isIdentifierStart c then
      some (String.ofList (c :: rest.takeWhile Text.isIdentifierContinue),
        rest.dropWhile Text.isIdentifierContinue)
    else none

/-- The longest identifier or keyword at the front of a text, in raw form or not, and the text
behind it. -/
def takeIdentifier? : List Char → Option (String × List Char)
  | 'r' :: '#' :: rest =>
    match takeWord? rest with
    | some (word, behind) =>
      if wordsWithoutRawForm.contains word then none else some ("r#" ++ word, behind)
    | none => none
  | cs => takeWord? cs

/-- A text without the byte order mark at its front. -/
def dropByteOrderMark : List Char → List Char
  | '\uFEFF' :: rest => rest
  | cs => cs

/-- The identifier that a text consists of, blanks and comments aside. -/
def identifier? (s : String) : Option String :=
  match takeIdentifier? (skipTrivia (dropByteOrderMark s.toList)) with
  | some (word, behind) =>
    if (skipTrivia behind).isEmpty && !isReserved word then some word else none
  | none => none

/-- Whether a text is a word of source code and nothing else. Reserved words count. -/
def isWord (s : String) : Bool :=
  match s.toList with
  | [] => false
  | c :: rest => Text.isIdentifierStart c && rest.all Text.isIdentifierContinue

end AbiBindings.Code
