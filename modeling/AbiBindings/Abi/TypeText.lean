import AbiBindings.Abi.Parameter
import AbiBindings.Abi.ParamType
import AbiBindings.Text.Blank
import AbiBindings.Text.Numeral

/-!
# Reading parameter types

The text of a type is an elementary name or the word `tuple`, followed by array suffixes `[]` and
`[n]`, with blanks allowed around it and around the element of each array. The components of a
tuple stand beside the text.

A text that is no type is named in the error: an array by its whole text, whatever is wrong inside
it, and a tuple by what its first component that is no type tells.
-/

set_option autoImplicit false

namespace AbiBindings.Abi

/-- A text that is no type. -/
structure TypeError where
  /-- The text, untrimmed. -/
  raw : String
  deriving DecidableEq, Repr

/-- The text of a type error. -/
def TypeError.message (e : TypeError) : String :=
  "'" ++ e.raw ++ "' is not a valid Solidity type"

namespace ParamType

/-- The greatest length of an array, and the greatest number that a type can hold, plus one. -/
def lengthLimit : Nat := Nat.pow 2 64

/-- A canonical numeral below the limit. -/
def size? (cs : List Char) : Option Nat :=
  (Text.numeral? cs).filter (· < lengthLimit)

/-- The width of an integer: 256 if none is given, otherwise a multiple of 8 up to 256. -/
def width? (cs : List Char) : Option Nat :=
  if cs.isEmpty then some 256
  else (size? cs).filter fun n => 8 ≤ n && n ≤ 256 && n % 8 == 0

/-- The elementary type of a name. -/
def elementary? (cs : List Char) : Option ParamType :=
  if cs = "address".toList then some .address
  else if cs = "bool".toList then some .bool
  else if cs = "string".toList then some .string
  else if cs = "bytes".toList then some .bytes
  else if cs = "byte".toList then some (.fixedBytes 1)
  else
    match cs with
    | 'u' :: 'i' :: 'n' :: 't' :: width => (width? width).map .uint
    | 'i' :: 'n' :: 't' :: width => (width? width).map .int
    | 'b' :: 'y' :: 't' :: 'e' :: 's' :: size =>
      ((size? size).filter fun n => 1 ≤ n && n ≤ 32).map .fixedBytes
    | _ => none

/-- The array of an element type whose brackets hold the given characters. -/
def arrayOf? (element : ParamType) (size : List Char) : Option ParamType :=
  if size.isEmpty then some (.array element)
  else ((size? size).filter (0 < ·)).map (.fixedArray element)

/-- Trimming does not lengthen. -/
theorem length_trimChars_le (cs : List Char) : (Text.trimChars cs).length ≤ cs.length := by
  unfold Text.trimChars
  rw [List.length_reverse]
  refine Nat.le_trans (List.dropWhile_sublist _).length_le ?_
  rw [List.length_reverse]
  exact (List.dropWhile_sublist _).length_le

/-- The array of an element that was read before brackets. Whatever is wrong with the element or
with what the brackets hold, the text of the array is to blame. -/
def readArray (raw size : List Char) (element : Except TypeError ParamType) :
    Except TypeError ParamType := do
  let fault : TypeError := ⟨String.ofList raw⟩
  let type ← element.mapError fun _ => fault
  match arrayOf? type size with
  | some result => .ok result
  | none => .error fault

/-- Reads array suffixes from the end of a text and what remains in front of them by `base`. The
suffix of a text is what stands behind its last opening bracket. -/
def readArrays (base : List Char → Except TypeError ParamType) (raw : List Char) :
    Except TypeError ParamType :=
  match h : (Text.trimChars raw).reverse with
  | ']' :: body =>
    match h' : body.dropWhile (· != '[') with
    | _ :: element =>
      have : element.length < raw.length := by
        have h₁ := congrArg List.length h
        have h₂ := length_trimChars_le raw
        have h₃ := (List.dropWhile_sublist (l := body) (· != '[')).length_le
        simp only [List.length_reverse, List.length_cons, h'] at *
        omega
      readArray raw (body.takeWhile (· != '[')).reverse (readArrays base element.reverse)
    | [] => .error ⟨String.ofList raw⟩
  | _ => base raw
termination_by raw.length

/-- The type of a text without array suffixes, given the components that stand beside it or the
first of them that is no type. A tuple has one component at least. -/
def readInnermost (components : Except TypeError (List (String × ParamType))) (raw : List Char) :
    Except TypeError ParamType :=
  let fault : TypeError := ⟨String.ofList raw⟩
  if Text.trimChars raw = "tuple".toList then
    match components with
    | .ok [] => .error fault
    | .ok fields => .ok (.tuple fields)
    | .error error => .error error
  else
    match elementary? (Text.trimChars raw) with
    | some type => .ok type
    | none => .error fault

/-- The type of a text, given the components that stand beside it. -/
def ofText (raw : String) (components : Except TypeError (List (String × ParamType))) :
    Except TypeError ParamType :=
  readArrays (readInnermost components) raw.toList

mutual

/-- The type of a parameter. -/
def ofParameter : Parameter → Except TypeError ParamType
  | ⟨_, type, components, _⟩ => ofText type (ofComponents components)

/-- The named types of a list of parameters, or the first of them that has none. -/
def ofComponents : List Parameter → Except TypeError (List (String × ParamType))
  | [] => .ok []
  | p :: rest => do
    let type ← ofParameter p
    let types ← ofComponents rest
    .ok ((p.name, type) :: types)

end

/-- The type of a text with components beside it. -/
def parse (raw : String) (components : List Parameter) : Except TypeError ParamType :=
  ofText raw (ofComponents components)

/-- The type of a text that stands alone. Blanks may surround the element of an array and the
array, but not an elementary name. -/
def parseAlone (raw : String) : Except TypeError ParamType :=
  if raw.toList.getLast? = some ']' then parse raw []
  else
    match elementary? raw.toList with
    | some type => .ok type
    | none => .error ⟨raw⟩

end ParamType

/-- The type of a parameter. -/
def Parameter.paramType (p : Parameter) : Except TypeError ParamType :=
  ParamType.parse p.type p.components

end AbiBindings.Abi
