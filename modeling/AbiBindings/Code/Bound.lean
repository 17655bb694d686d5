import AbiBindings.Code.Path

/-!
# Bounds

A bound is a lifetime or a trait: a path, possibly with `?`, with lifetimes that it holds for all
of, or with arguments in round brackets and a result, as the traits of functions have them. Bounds
are joined by `+`.
-/

set_option autoImplicit false

namespace AbiBindings.Code

/-- A bound as it is written. -/
structure Bound where
  code : Tokens
  /-- The code without the round brackets around the bound, if there are some. -/
  bare : Tokens
  isTrait : Bool

/-- The code of bounds, each with whether `+` follows it. -/
def boundCode (bounds : List (Bound × Bool)) : Tokens :=
  bounds.flatMap fun (bound, followed) => bound.code ++ if followed then marks ['+'] else []

namespace Reader

/-- Reads lifetimes joined by `+`, within `fuel` steps. -/
def outlivedWithin : Nat → Reader Tokens
  | 0 => return []
  | fuel + 1 => do
    let tokens ← ahead
    if startsWithMarks [','] tokens || startsWithMarks ['>'] tokens then return []
    let name ← lifetime
    if startsWithMarks ['+'] (← ahead) then
      let sign ← mark ['+']
      return name ++ sign ++ (← outlivedWithin fuel)
    else return name

/-- Reads the declaration of a lifetime with the lifetimes that it outlives. A colon without any
is dropped. -/
def lifetimeDeclaration : Reader Tokens := do
  let attributes ← attributes
  let name ← lifetime
  let colon ← mark? [':']
  let outlived ← if colon.isEmpty then pure [] else outlivedWithin ((← ahead).length + 1)
  return attributes ++ name ++ if outlived.isEmpty then [] else colon ++ outlived

/-- Reads `for` with lifetimes in angle brackets. -/
def forLifetimes : Reader Tokens := do
  let for_ ← word "for"
  let opening ← mark ['<']
  let lifetimes ← items startsWithClosing lifetimeDeclaration
  let closing ← mark ['>']
  return for_ ++ opening ++ itemCode lifetimes ++ closing

/-- Reads the result of a function, if there is one. -/
def result (nested : Nested) : Reader Tokens := do
  let arrow ← mark? ['-', '>']
  if arrow.isEmpty then return [] else return arrow ++ (← nested.type false).code

/-- Whether arguments in round brackets are ahead, with `::` before them or not. -/
def startsWithCall (tokens : Tokens) : Bool :=
  startsWithGroup .round tokens ||
    (startsWithColons tokens && startsWithGroup .round (tokens.drop 2))

/-- Reads arguments in round brackets behind a path that has no arguments yet, with a result. -/
def callBehind (nested : Nested) (path : PathCode) : Reader PathCode := do
  if !path.filled && startsWithCall (← ahead) then
    let _ ← mark? [':', ':']
    let body ← group .round
    let inputs ← within body (items List.isEmpty (TypeCode.code <$> nested.type true))
    let result ← result nested
    return { path with
      arguments := round (itemCode inputs) :: result
      filled := true
      bracketed := true }
  else return path

/-- Reads a bound by a trait. -/
def traitBound (nested : Nested) : Reader Tokens := do
  let modifier ← mark? ['?']
  let lifetimes ← if startsWithWord "for" (← ahead) then forLifetimes else pure []
  let path ← path nested false
  return modifier ++ lifetimes ++ (← callBehind nested path).code

/-- Reads a bound. -/
def bound (nested : Nested) : Reader Bound := do
  let tokens ← ahead
  if startsWithLifetime tokens then
    let name ← lifetime
    return ⟨name, name, false⟩
  else if startsWithGroup .round tokens then
    let body ← group .round
    let code ← within body (traitBound nested)
    return ⟨[round code], code, true⟩
  else
    let code ← traitBound nested
    return ⟨code, code, true⟩

/-- Reads bounds behind another one, within `fuel` steps: each stands behind a `+`, and a `+` that a
closing angle bracket follows may have none behind it. The bound before them comes first. -/
def boundsBehind (nested : Nested) (plus : Bool) : Nat → Bound → Reader (List (Bound × Bool))
  | 0, first => return [(first, false)]
  | fuel + 1, first => do
    if plus && startsWithMarks ['+'] (← ahead) then
      skip 1
      if startsWithClosing (← ahead) then return [(first, true)]
      let next ← bound nested
      return (first, true) :: (← boundsBehind nested plus fuel next)
    else return [(first, false)]

/-- Reads bounds. -/
def bounds (nested : Nested) (plus : Bool) : Reader (List (Bound × Bool)) := do
  let first ← bound nested
  boundsBehind nested plus ((← ahead).length + 1) first

/-- Reads bounds behind another one, within `fuel` steps, where a bound has to follow each `+`. -/
def strictBoundsBehind (nested : Nested) : Nat → Bound → Reader (List (Bound × Bool))
  | 0, first => return [(first, false)]
  | fuel + 1, first => do
    if startsWithMarks ['+'] (← ahead) then
      skip 1
      let next ← bound nested
      return (first, true) :: (← strictBoundsBehind nested fuel next)
    else return [(first, false)]

end Reader

end AbiBindings.Code
