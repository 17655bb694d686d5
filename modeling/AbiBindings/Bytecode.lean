import AbiBindings.Text.Blank
import AbiBindings.Text.Utf8

/-!
# Bytecode

The compiled code of a contract as text without blanks around it. A text that is blank counts as
no code at all, so that the text of provided code is never empty.
-/

set_option autoImplicit false

namespace AbiBindings

/-- The compiled code of a contract, if it is provided. -/
structure Bytecode where
  text : Option String
  deriving DecidableEq, Repr

namespace Bytecode

/-- No code. -/
def notProvided : Bytecode := ⟨none⟩

/-- Whether there is no code. -/
def isNotProvided (code : Bytecode) : Bool :=
  code.text.isNone

/-- The code in a text. -/
def ofText (s : String) : Bytecode :=
  let text := Text.trim s
  if text = "" then notProvided else ⟨some text⟩

/-- The code in a text that may be missing. -/
def ofOption : Option String → Bytecode
  | some s => ofText s
  | none => notProvided

/-- The code in a file. -/
def ofBytes (bytes : List UInt8) : Bytecode :=
  ofText (Text.Utf8.textLossy bytes)

end Bytecode

end AbiBindings
