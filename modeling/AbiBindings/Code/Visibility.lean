import AbiBindings.Code.Reader

/-!
# Visibility modifiers

A visibility modifier is empty, `pub`, `crate`, `pub` with one of `crate`, `self` and `super` in
round brackets, or `pub` with `in` and a plain path in round brackets.
-/

set_option autoImplicit false

namespace AbiBindings.Code

namespace Reader

/-- Reads a visibility modifier. Round brackets with anything else in them do not belong to it. -/
def visibility : Reader Tokens := do
  match ← ahead with
  | .word "pub" :: .group .round (.word "in" :: path) :: _ => do
    skip 2
    let code ← within path plainPath
    return [.word "pub", round (.word "in" :: code)]
  | .word "pub" :: .group .round [.word scope] :: _ =>
    if pathWords.contains scope then
      skip 2
      return [.word "pub", round [.word scope]]
    else word "pub"
  | .word "pub" :: _ => word "pub"
  | .word "crate" :: rest => if startsWithColons rest then return [] else word "crate"
  | _ => return []

end Reader

/-- The tokens of the visibility modifier that a text consists of. -/
def visibility (s : String) : Except SyntaxFault Tokens :=
  readAll Reader.visibility s

end AbiBindings.Code
