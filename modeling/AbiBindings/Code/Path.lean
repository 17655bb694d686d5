import AbiBindings.Code.Reader

/-!
# Paths

A path is a list of segments separated by `::`, with another `::` in front if it starts at the
root. A segment is an identifier or one of `super`, `self`, `Self` and `crate`; an identifier may
carry generic arguments, which are lifetimes, constants, types and bindings of names to these.
Whatever order they are given in, the lifetimes are written first.

Paths, types and expressions contain each other. The readers of this module are therefore given
readers for what is nested in a path.
-/

set_option autoImplicit false

namespace AbiBindings.Code

/-- A type as it is written. -/
structure TypeCode where
  code : Tokens
  /-- The type as a trait bound, if it can stand for one in round brackets. -/
  bound : Option Tokens := none

/-- Readers for what is nested in a piece of code. -/
structure Nested where
  /-- Reads a type, with `+` between several bounds or without. -/
  type : (plus : Bool) → Reader TypeCode
  /-- Reads an expression. -/
  expression : Reader Tokens

/-- A path as it is written, the arguments of its last segment apart. -/
structure PathCode where
  /-- All up to the name of the last segment. -/
  front : Tokens
  /-- The generic arguments of the last segment. -/
  arguments : Tokens
  /-- Whether the last segment has an argument. -/
  filled : Bool
  /-- Whether any segment has brackets for arguments. -/
  bracketed : Bool

/-- The code of a path. -/
def PathCode.code (path : PathCode) : Tokens :=
  path.front ++ path.arguments

/-- The path that goes on with another segment, which is a path by itself. -/
def PathCode.join (path segment : PathCode) : PathCode where
  front := path.code ++ colons ++ segment.front
  arguments := segment.arguments
  filled := segment.filled
  bracketed := path.bracketed || segment.bracketed

/-- A path with some code in front. -/
def PathCode.behind (front : Tokens) (path : PathCode) : PathCode :=
  { path with front := front ++ path.front }

/-- A generic argument as it is written. -/
structure Argument where
  code : Tokens
  isLifetime : Bool

/-- The code of the arguments behind the lifetimes; `separated` if no comma is due before them. -/
def argumentsBehind : Bool → List (Argument × Bool) → Tokens
  | _, [] => []
  | separated, (argument, followed) :: rest =>
    (if separated then [] else [comma]) ++ argument.code ++ (if followed then [comma] else []) ++
      argumentsBehind followed rest

/-- The code of generic arguments with their commas, the lifetimes first. -/
def argumentCode (arguments : List (Argument × Bool)) : Tokens :=
  let lifetimes := arguments.filter fun (argument, _) => argument.isLifetime
  let others := arguments.filter fun (argument, _) => !argument.isLifetime
  let separated := (lifetimes.getLast?.map Prod.snd).getD true
  Reader.itemCode (lifetimes.map fun (argument, followed) => (argument.code, followed)) ++
    argumentsBehind separated others

namespace Reader

/-- Whether tokens start with a closing angle bracket. -/
def startsWithClosing (tokens : Tokens) : Bool :=
  startsWithMarks ['>'] tokens

/-- Reads a constant in curly brackets and gives the brackets as they stand. -/
def block (nested : Nested) : Reader Tokens := do
  let body ← group .curly
  let _ ← within body nested.expression
  return [curly body]

/-- Reads what a name is bound to. -/
def boundValue (nested : Nested) : Reader Tokens := do
  match ← literal? with
  | some code => return code
  | none =>
    if startsWithGroup .curly (← ahead) then block nested
    else return (← nested.type true).code

/-- Reads a generic argument. A constant in curly brackets is written within another pair. -/
def argument (nested : Nested) : Reader Argument := do
  let tokens ← ahead
  if startsWithLifetime tokens && !startsWithMarks ['+'] (behindOne tokens) then
    return ⟨← lifetime, true⟩
  else if startsWithIdentifier tokens && startsWithMarks ['='] (behindOne tokens) then
    let name ← identifier
    let sign ← mark ['=']
    return ⟨name ++ sign ++ (← boundValue nested), false⟩
  else
    match ← literal? with
    | some code => return ⟨code, false⟩
    | none =>
      if startsWithGroup .curly tokens then return ⟨[curly (← block nested)], false⟩
      else return ⟨(← nested.type true).code, false⟩

/-- Reads generic arguments in angle brackets. -/
def arguments (nested : Nested) : Reader (List (Argument × Bool)) := do
  let _ ← mark ['<']
  let arguments ← items startsWithClosing (argument nested)
  let _ ← mark ['>']
  return arguments

/-- The path of one segment with generic arguments, `::` before them or not. -/
def argued (name sign : Tokens) (arguments : List (Argument × Bool)) : PathCode where
  front := name
  arguments := sign ++ marks ['<'] ++ argumentCode arguments ++ marks ['>']
  filled := !arguments.isEmpty
  bracketed := true

/-- Reads one segment of a path. In an expression a bare `<` does not open arguments. -/
def segment (nested : Nested) (inExpression : Bool) : Reader PathCode := do
  if startsWithWords pathWords (← ahead) then return ⟨← anyWord, [], false, false⟩
  else
    let name ← if startsWithWord "Self" (← ahead) then anyWord else identifier
    let tokens ← ahead
    if !inExpression && startsWithMarks ['<'] tokens && !startsWithMarks ['<', '='] tokens then
      return argued name [] (← arguments nested)
    else if startsWithColons tokens && startsWithMarks ['<'] (tokens.drop 2) then
      let sign ← mark [':', ':']
      return argued name sign (← arguments nested)
    else return ⟨name, [], false, false⟩

/-- Reads further segments within `fuel` steps. A `::` with a group in round brackets behind it
does not belong to the path. -/
def segmentsBehind (nested : Nested) (inExpression : Bool) : Nat → PathCode → Reader PathCode
  | 0, path => return path
  | fuel + 1, path => do
    let tokens ← ahead
    if startsWithColons tokens && !startsWithGroup .round (tokens.drop 2) then
      skip 2
      segmentsBehind nested inExpression fuel (path.join (← segment nested inExpression))
    else return path

/-- Reads a path. -/
def path (nested : Nested) (inExpression : Bool) : Reader PathCode := do
  let root ← mark? [':', ':']
  let first ← segment nested inExpression
  return (← segmentsBehind nested inExpression ((← ahead).length + 1) first).behind root

/-- Reads the segments behind a qualifier within `fuel` steps, of which there has to be one. -/
def qualifiedSegments (nested : Nested) (inExpression : Bool) : Nat → Reader PathCode
  | 0 => expected "identifier"
  | fuel + 1 => do
    let first ← segment nested inExpression
    if startsWithColons (← ahead) then
      skip 2
      return first.join (← qualifiedSegments nested inExpression fuel)
    else return first

/-- Reads a path, with or without a qualifier: a type in angle brackets, seen as a trait or not.
Also tells whether there is a qualifier. -/
def qualifiedPath (nested : Nested) (inExpression : Bool) : Reader (PathCode × Bool) := do
  if startsWithMarks ['<'] (← ahead) then
    let opening ← mark ['<']
    let self ← nested.type true
    let as_ ← word? "as"
    let trait ← if as_.isEmpty then pure none else some <$> path nested false
    let closing ← mark ['>']
    let sign ← mark [':', ':']
    let rest ← qualifiedSegments nested inExpression ((← ahead).length + 1)
    let front := opening ++ self.code ++ as_ ++ (trait.map PathCode.code).getD [] ++ closing ++ sign
    let traitBracketed := (trait.map PathCode.bracketed).getD false
    return ({ rest.behind front with bracketed := traitBracketed || rest.bracketed }, true)
  else return (← path nested inExpression, false)

end Reader

end AbiBindings.Code
