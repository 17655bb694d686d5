/-!
# Faults in configured code

Why a text is not the piece of code that it should be: it does not fall into tokens, tokens are
left over, or something else was expected at some place.
-/

set_option autoImplicit false

namespace AbiBindings.Code

/-- Why a text is not a piece of code of a given kind. -/
inductive SyntaxFault where
  /-- The text does not fall into tokens. -/
  | noTokens
  /-- A token stands where none belongs. -/
  | unexpected
  /-- Something was expected at a token, or at the end of the tokens. -/
  | expected (what : String) (atEnd : Bool)
  /-- A constant is not one of the simple expressions that are read. -/
  | unsupportedExpression (atEnd : Bool)
  /-- A conversion to a type goes on as no conversion can. -/
  | conversionContinued (how : String)
  /-- Bounds without a trait do not make an object type. -/
  | noTraitInObject
  /-- Bounds without a trait do not make an opaque type. -/
  | noTraitInOpaque
  /-- A field of a tuple has a number that does not fit. -/
  | fieldTooLarge
  /-- A field of a tuple has a negative number. -/
  | fieldNegative
  /-- Reading cannot go on: the text is of a kind that no answer is known for. -/
  | unreadable (what : String)
  deriving DecidableEq, Repr

/-- A text about the place where the tokens may have ended. -/
def placed (text : String) (atEnd : Bool) : String :=
  if atEnd then "unexpected end of input, " ++ text else text

/-- The text of a fault. -/
def SyntaxFault.message : SyntaxFault → String
  | .noTokens => "lex error"
  | .unexpected => "unexpected token"
  | .expected what atEnd => placed ("expected " ++ what) atEnd
  | .unsupportedExpression atEnd =>
    placed "unsupported expression; enable syn's features=[\"full\"]" atEnd
  | .conversionContinued how => "casts cannot be followed by " ++ how
  | .noTraitInObject => "at least one trait is required for an object type"
  | .noTraitInOpaque => "at least one trait must be specified"
  | .fieldTooLarge => "number too large to fit in target type"
  | .fieldNegative => "invalid digit found in string"
  | .unreadable what => what

end AbiBindings.Code
