import AbiBindings.Code.Bound

/-!
# Types

The types that generic arguments may be: paths, references and pointers, tuples, slices and arrays,
functions, objects and opaque types given by bounds, invocations of macros, `!` and `_`.
-/

set_option autoImplicit false

namespace AbiBindings.Code

/-- What a type may start with. -/
def typeStarts : String :=
  "one of: `for`, parentheses, `fn`, `unsafe`, `extern`, identifier, `::`, `<`, " ++
    "square brackets, `*`, `&`, `!`, `impl`, `_`, lifetime"

/-- What may follow lifetimes at the start of a type. -/
def quantifiedStarts : String :=
  "one of: identifier, `fn`, `unsafe`, `extern`, `super`, `self`, `Self`, `crate`"

/-- The words that a function type may start with. -/
def functionWords : List String := ["fn", "unsafe", "extern"]

/-- The type that bounds make. A single one can stand as a bound in round brackets. -/
def objectType (bounds : List (Bound × Bool)) : TypeCode where
  code := boundCode bounds
  bound := match bounds with
    | [(bound, false)] => if bound.isTrait then some bound.bare else none
    | _ => none

namespace Reader

/-- The code that has been read since some tokens were ahead, as it stands. -/
def readSince (tokens : Tokens) : Reader Tokens := do
  return tokens.take (tokens.length - (← ahead).length)

/-- The parameters of a function type that have been read. -/
structure Parameters where
  code : Tokens := []
  /-- Whether a comma or nothing stands before the next parameter. -/
  separated : Bool := true
  /-- Whether a `mut self` was among them. The type is then written as it stands. -/
  mutableSelf : Bool := false

/-- Reads a parameter of a function type behind its attributes, or nothing for `mut self`. -/
def parameter (nested : Nested) : Reader (Option Tokens) := do
  let tokens ← ahead
  let second := behindOne tokens
  let third := behindOne second
  if (startsWithIdentifier tokens || startsWithWords ["_", "self"] tokens) &&
      startsWithMarks [':'] second && !startsWithColons second then
    let name ← anyWord
    let colon ← mark [':']
    let dots ← mark? ['.', '.', '.']
    if dots.isEmpty then return some (name ++ colon ++ (← nested.type true).code)
    else return some (name ++ colon ++ dots)
  else if startsWithWord "mut" tokens && startsWithWord "self" second then
    skip 2
    if startsWithMarks [':'] third && !startsWithColons third then
      skip 1
      let _ ← nested.type true
    return none
  else
    let dots ← mark? ['.', '.', '.']
    if dots.isEmpty then return some (← nested.type true).code else return some dots

/-- Reads the parameters of a function type within `fuel` steps. Three points at the end stand for
any further parameters. -/
def parametersWithin (nested : Nested) : Nat → Parameters → Reader Parameters
  | 0, read => return read
  | fuel + 1, read => do
    if (← ahead).isEmpty then return read
    let attributes ← attributes
    if read.separated && startsWithMarks ['.', '.', '.'] (← ahead) then
      return { read with code := read.code ++ attributes ++ (← mark ['.', '.', '.']) }
    let next ← match ← parameter nested with
      | none => pure { read with mutableSelf := true }
      | some code =>
        if !read.separated then throw (.unreadable "mut self")
        pure { read with code := read.code ++ attributes ++ code, separated := false }
    if (← ahead).isEmpty then return next
    let sign ← mark [',']
    parametersWithin nested fuel
      (if next.mutableSelf then next
        else { next with code := next.code ++ sign, separated := true })

/-- Reads where a function comes from: `extern` and a text, if there is one. -/
def origin : Reader Tokens := do
  let extern_ ← word? "extern"
  match ← ahead with
  | .literal text :: _ =>
    if extern_.isEmpty then return []
    refuseTerminated text
    let isText := text.toList.head? == some '"' || text.toList.head? == some 'r'
    if isText then
      skip 1
      return extern_ ++ [.literal text]
    else return extern_
  | _ => return extern_

/-- Reads a function type behind its lifetimes, given the tokens at the start of the type. -/
def functionType (nested : Nested) (start lifetimes : Tokens) : Reader Tokens := do
  let unsafe_ ← word? "unsafe"
  let origin ← origin
  let fn ← word "fn"
  let body ← group .round
  let parameters ← within body (parametersWithin nested (body.length + 1) {})
  let result ← result nested
  if parameters.mutableSelf then readSince start
  else return lifetimes ++ unsafe_ ++ origin ++ fn ++ [round parameters.code] ++ result

/-- Reads bounds that make an object type. -/
def objectBounds (nested : Nested) (plus : Bool) : Reader (List (Bound × Bool)) := do
  let bounds ← bounds nested plus
  if bounds.any fun (bound, _) => bound.isTrait then return bounds
  else throw .noTraitInObject

/-- Reads an object type with `dyn`, given the tokens at the start of the type. -/
def dynamicType (nested : Nested) (plus : Bool) (start : Tokens) : Reader TypeCode := do
  let dyn ← word "dyn"
  let star ← mark? ['*']
  let bounds ← objectBounds nested plus
  if star.isEmpty then return { code := dyn ++ boundCode bounds }
  else return { code := ← readSince start }

/-- Reads an opaque type. -/
def opaqueType (nested : Nested) (plus : Bool) : Reader TypeCode := do
  let impl ← word "impl"
  let bounds ← bounds nested plus
  if bounds.any fun (bound, _) => bound.isTrait then return { code := impl ++ boundCode bounds }
  else throw .noTraitInOpaque

/-- Reads what the name and the exclamation mark of a macro are followed by. -/
def macroInput : Reader Tokens := do
  match ← ahead with
  | .group bracket body :: _ =>
    skip 1
    return [.group bracket body]
  | _ => expected "delimiter"

/-- Reads a type that starts with a path: the path itself, a macro, or bounds. -/
def pathType (nested : Nested) (plus : Bool) (lifetimes : Tokens) : Reader TypeCode := do
  let (front, qualified) ← qualifiedPath nested false
  let path ← callBehind nested front
  let tokens ← ahead
  if qualified then return { code := path.code }
  else if startsWithMarks ['!'] tokens && !startsWithMarks ['!', '='] tokens && !path.bracketed then
    let sign ← mark ['!']
    return { code := path.code ++ sign ++ (← macroInput) }
  else if !lifetimes.isEmpty || (plus && startsWithMarks ['+'] tokens) then
    let code := lifetimes ++ path.code
    return objectType (← boundsBehind nested plus (tokens.length + 1) ⟨code, code, true⟩)
  else return { code := path.code, bound := some path.code }

/-- Reads an object type behind its first bound, which stands in round brackets. -/
def bracketedObject (nested : Nested) (code : Tokens) : Reader TypeCode := do
  let first : Bound := ⟨[round code], code, true⟩
  return objectType (← strictBoundsBehind nested ((← ahead).length + 1) first)

/-- Reads a type in round brackets: a tuple, a type by itself or bounds. -/
def bracketedType (nested : Nested) (plus : Bool) : Reader TypeCode := do
  let body ← group .round
  if body.isEmpty then return { code := [round []] }
  else if startsWithLifetime body then
    return { code := [round (boundCode (← within body (objectBounds nested true)))] }
  else if startsWithMarks ['?'] body then
    bracketedObject nested (← within body (traitBound nested))
  else
    let (first, rest) ← within body do
      let first ← nested.type true
      let sign ← mark? [',']
      if sign.isEmpty then return (first, none)
      else
        let rest ← items List.isEmpty (TypeCode.code <$> nested.type true)
        return (first, some (sign ++ itemCode rest))
    match rest, first.bound with
    | some rest, _ => return { code := [round (first.code ++ rest)] }
    | none, some bound =>
      if plus && startsWithMarks ['+'] (← ahead) then bracketedObject nested bound
      else return { code := [round first.code] }
    | none, none => return { code := [round first.code] }

/-- Reads a slice or an array. -/
def listType (nested : Nested) : Reader TypeCode := do
  let body ← group .square
  let code ← within body do
    let element ← nested.type true
    let sign ← mark? [';']
    if sign.isEmpty then return element.code
    else return element.code ++ sign ++ (← nested.expression)
  return { code := [square code] }

/-- Reads a pointer. -/
def pointerType (nested : Nested) : Reader TypeCode := do
  let star ← mark ['*']
  if startsWithWords ["const", "mut"] (← ahead) then
    let kind ← anyWord
    return { code := star ++ kind ++ (← nested.type false).code }
  else expected "`const` or `mut`"

/-- Reads a reference. -/
def referenceType (nested : Nested) : Reader TypeCode := do
  let sign ← mark ['&']
  let lifetime ← if startsWithLifetime (← ahead) then lifetime else pure []
  let mut_ ← word? "mut"
  return { code := sign ++ lifetime ++ mut_ ++ (← nested.type false).code }

/-- Reads the lifetimes at the start of a type. A function or a path has to follow, and no `dyn`. -/
def typeLifetimes : Reader Tokens := do
  if startsWithWord "for" (← ahead) then
    let lifetimes ← forLifetimes
    let tokens ← ahead
    if startsWithWord "dyn" tokens then throw .unexpected
    else if startsWithIdentifier tokens ||
        startsWithWords (functionWords ++ "Self" :: pathWords) tokens then
      return lifetimes
    else expected quantifiedStarts
  else return []

/-- Reads a type. -/
def type (nested : Nested) (plus : Bool) : Reader TypeCode := do
  let start ← ahead
  let lifetimes ← typeLifetimes
  let tokens ← ahead
  if startsWithGroup .round tokens then bracketedType nested plus
  else if startsWithWords functionWords tokens then
    return { code := ← functionType nested start lifetimes }
  else if startsWithWord "dyn" tokens then dynamicType nested plus start
  else if startsWithIdentifier tokens || startsWithWords ("Self" :: pathWords) tokens ||
      startsWithColons tokens || startsWithMarks ['<'] tokens then
    pathType nested plus lifetimes
  else if startsWithGroup .square tokens then listType nested
  else if startsWithMarks ['*'] tokens then pointerType nested
  else if startsWithMarks ['&'] tokens then referenceType nested
  else if startsWithMarks ['!'] tokens then return { code := ← mark ['!'] }
  else if startsWithWord "impl" tokens then opaqueType nested plus
  else if startsWithWord "_" tokens then return { code := ← word "_" }
  else if startsWithLifetime tokens then return objectType (← objectBounds nested plus)
  else expected typeStarts

end Reader

end AbiBindings.Code
