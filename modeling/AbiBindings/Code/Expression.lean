import AbiBindings.Code.Literal
import AbiBindings.Code.LiteralValue
import AbiBindings.Code.Path

/-!
# Expressions of constants

The expressions that a constant may consist of: literals, paths, expressions in round brackets,
calls, fields, elements, the signs `*`, `!` and `-`, operators between two expressions and
conversions to a type. Their code keeps its order, so that no precedence of operators shows.
-/

set_option autoImplicit false

namespace AbiBindings.Code

/-- The operators between two expressions, those first that others are a part of. -/
def binaryOperators : List (List Char) :=
  ["&&", "||", "<<", ">>", "==", "<=", "!=", ">=",
    "+", "-", "*", "/", "%", "^", "&", "|", "<", ">"].map String.toList

namespace Reader

/-- Reads within round brackets a list of expressions. -/
def callArguments (nested : Nested) : Reader Token := do
  let body ← group .round
  return round (itemCode (← within body (items List.isEmpty nested.expression)))

/-- Whether tokens go on with a point that belongs to no run of points. -/
def startsWithPoint (tokens : Tokens) : Bool :=
  startsWithMarks ['.'] tokens && !startsWithMarks ['.', '.'] tokens

/-- The code of a field of a tuple. -/
def fieldNumber (sign : Tokens) (text : String) : Reader Tokens := do
  match LiteralValue.integer? text.toList with
  | none => throw (.expected "integer literal" false)
  | some (n, suffix) =>
    if !suffix.isEmpty then throw (.expected "unsuffixed integer" false)
    else if !sign.isEmpty then throw .fieldNegative
    else if n ≥ Nat.pow 2 32 then throw .fieldTooLarge
    else return [numberLiteral n]

/-- The codes of fields of tuples, each of the one before it, with points between them. -/
def fieldNumbers (sign : Tokens) : List String → Reader Tokens
  | [] => return []
  | [text] => fieldNumber sign text
  | text :: rest => do
    return (← fieldNumber sign text) ++ marks ['.'] ++ (← fieldNumbers [] rest)

/-- The sign and the text of the number ahead, if there is one. -/
def numberAhead : Reader (Option (Tokens × String)) := do
  match ← ahead with
  | .literal text :: _ =>
    refuseTerminated text
    return if isNumber text then some ([], text) else none
  | .mark '-' _ :: .literal text :: _ =>
    return if isNumber text then some ([.mark '-' false], text) else none
  | _ => return none

/-- Reads the name or the number of a field. -/
def member : Reader Tokens := do
  if startsWithIdentifier (← ahead) then identifier
  else
    match ← numberAhead with
    | some (sign, text) =>
      if (LiteralValue.integer? text.toList).isSome then
        skip (sign.length + 1)
        fieldNumber sign text
      else expected "identifier or integer"
    | none => expected "identifier or integer"

/-- Reads what stands behind the point of a field. A floating point number there is read as the
numbers of two fields, one of the other, and the last one may still be to come. -/
def field : Reader Tokens := do
  match ← numberAhead with
  | some (sign, text) =>
    if (LiteralValue.integer? text.toList).isSome then member
    else
      skip (sign.length + 1)
      let pieces := Text.split (· == '.') text
      if pieces.getLast? == some "" then
        return (← fieldNumbers sign pieces.dropLast) ++ marks ['.'] ++ (← member)
      else fieldNumbers sign pieces
  | none => member

/-- Reads calls, fields and elements of an expression within `fuel` steps. -/
def trailers (nested : Nested) : Nat → Reader Tokens
  | 0 => return []
  | fuel + 1 => do
    let tokens ← ahead
    if startsWithGroup .round tokens then
      return (← callArguments nested) :: (← trailers nested fuel)
    else if startsWithPoint tokens && !startsWithWord "await" (behindOne tokens) then
      let point ← mark ['.']
      let name ← field
      return point ++ name ++ (← trailers nested fuel)
    else if startsWithGroup .square tokens then
      let body ← group .square
      let index ← within body nested.expression
      return square index :: (← trailers nested fuel)
    else return []

/-- Reads a literal, an expression in round brackets or a path. -/
def atom (nested : Nested) : Reader Tokens := do
  match ← literal? with
  | some code => return code
  | none =>
    let tokens ← ahead
    if startsWithGroup .round tokens then
      let body ← group .round
      return [round (← within body nested.expression)]
    else if startsWithIdentifier tokens || startsWithColons tokens ||
        startsWithMarks ['<'] tokens || startsWithWords ("Self" :: pathWords) tokens then
      return (← qualifiedPath nested true).1.code
    else throw (.unsupportedExpression tokens.isEmpty)

/-- Reads an expression without operators, with signs in front, within `fuel` steps. -/
def operand (nested : Nested) : Nat → Reader Tokens
  | 0 => throw (.unsupportedExpression true)
  | fuel + 1 => do
    let tokens ← ahead
    match ['*', '!', '-'].find? fun c => startsWithMarks [c] tokens with
    | some c => return (← mark [c]) ++ (← operand nested fuel)
    | none =>
      let front ← atom nested
      return front ++ (← trailers nested ((← ahead).length + 1))

/-- Refuses what cannot stand behind a conversion. -/
def endConversion : Reader Unit := do
  let tokens ← ahead
  let second := behindOne tokens
  let third := behindOne second
  if startsWithPoint tokens then
    if startsWithWord "await" second then throw (.conversionContinued "`.await`")
    else if startsWithIdentifier second &&
        (startsWithGroup .round third || startsWithColons third) then
      throw (.conversionContinued "a method call")
    else throw (.conversionContinued "a field access")
  else if startsWithMarks ['?'] tokens then throw (.conversionContinued "`?`")
  else if startsWithGroup .square tokens then throw (.conversionContinued "indexing")
  else if startsWithGroup .round tokens then throw (.conversionContinued "a function call")

/-- Reads operators with their second operands, and conversions, within `fuel` steps. -/
def operations (nested : Nested) : Nat → Reader Tokens
  | 0 => return []
  | fuel + 1 => do
    let tokens ← ahead
    match binaryOperators.find? fun cs => startsWithMarks cs tokens with
    | some cs =>
      let sign ← mark cs
      let second ← operand nested ((← ahead).length + 1)
      return sign ++ second ++ (← operations nested fuel)
    | none =>
      if startsWithWord "as" tokens then
        let as_ ← word "as"
        let type ← nested.type false
        endConversion
        return as_ ++ type.code ++ (← operations nested fuel)
      else return []

/-- Reads an expression. -/
def expression (nested : Nested) : Reader Tokens := do
  let first ← operand nested ((← ahead).length + 1)
  return first ++ (← operations nested ((← ahead).length + 1))

end Reader

end AbiBindings.Code
