import AbiBindings.Code.Expression
import AbiBindings.Code.TypeExpression

/-!
# Traits to derive

A trait is named by a path, which may hold types and expressions of any depth. `Reader.nested`
gives the readers for a depth; no text nests deeper than it has characters.
-/

set_option autoImplicit false

namespace AbiBindings.Code

namespace Reader

/-- Readers for types and expressions that nest to a depth. -/
def nested : Nat → Nested
  | 0 => ⟨fun _ => expected typeStarts, throw (.unsupportedExpression false)⟩
  | depth + 1 => ⟨type (nested depth), expression (nested depth)⟩

end Reader

/-- The tokens of the path that a text consists of. -/
def path (s : String) : Except SyntaxFault Tokens :=
  readAll (do return (← Reader.path (Reader.nested (s.length + 1)) false).code) s

end AbiBindings.Code
