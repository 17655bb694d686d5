import AbiBindings.Text.Join
import AbiBindings.Text.Quoted

/-!
# Faults in JSON documents

What can be wrong with a document, where, and how it is told. A fault of the syntax or of the data
has a position; a failure of the device that delivers the document has one only if it strikes
inside a value that is being read.
-/

set_option autoImplicit false

namespace AbiBindings.Json

/-- A place in a document: a line, counted from 1, and the number of bytes of that line up to and
including the place. -/
structure Position where
  line : Nat
  column : Nat
  deriving DecidableEq, Repr

/-- The position behind one more byte. -/
def Position.after (p : Position) (b : UInt8) : Position :=
  if b == 0x0A then ⟨p.line + 1, 0⟩ else ⟨p.line, p.column + 1⟩

/-- The position behind a sequence of bytes. -/
def Position.through (p : Position) (bytes : List UInt8) : Position :=
  bytes.foldl Position.after p

/-- A value that stands where another kind of value should. -/
inductive Found where
  | null
  | boolean (value : Bool)
  | integer (value : Int)
  /-- A number that is no integer of 64 bits, by its text. -/
  | floating (text : String)
  | string (value : String)
  | sequence
  | object
  deriving DecidableEq, Repr

/-- How a value is described. -/
def Found.describe : Found → String
  | .null => "null"
  | .boolean value => "boolean `" ++ toString value ++ "`"
  | .integer value => "integer `" ++ toString value ++ "`"
  | .floating text => "floating point `" ++ text ++ "`"
  | .string value => "string " ++ Text.Quoted.quote value
  | .sequence => "sequence"
  | .object => "map"

/-- What is wrong with a document. -/
inductive Problem where
  /-- The document ends inside an array. -/
  | endInArray
  /-- The document ends inside an object. -/
  | endInObject
  /-- The document ends inside a string. -/
  | endInString
  /-- The document ends where a value should stand. -/
  | endInValue
  | expectedColon
  | expectedCommaOrBracket
  | expectedCommaOrBrace
  | expectedWord
  | expectedValue
  | invalidEscape
  | invalidNumber
  | numberOutOfRange
  | invalidCodePoint
  | controlCharacter
  | keyNotString
  | loneSurrogate
  | unfinishedSurrogate
  | trailingComma
  | trailingCharacters
  | tooDeep
  /-- A value of the wrong kind. -/
  | wrongKind (found : Found) (expected : String)
  /-- An array with too few elements. -/
  | wrongLength (length : Nat) (expected : String)
  /-- A name that is none of the choices. -/
  | unknownName (name : String) (choices : List String)
  | missingField (name : String)
  | repeatedField (name : String)
  /-- The device that delivers the document failed. -/
  | deviceFailure (text : String)
  deriving DecidableEq, Repr

/-- The text of a problem. -/
def Problem.message : Problem → String
  | .endInArray => "EOF while parsing a list"
  | .endInObject => "EOF while parsing an object"
  | .endInString => "EOF while parsing a string"
  | .endInValue => "EOF while parsing a value"
  | .expectedColon => "expected `:`"
  | .expectedCommaOrBracket => "expected `,` or `]`"
  | .expectedCommaOrBrace => "expected `,` or `\x7d`"
  | .expectedWord => "expected ident"
  | .expectedValue => "expected value"
  | .invalidEscape => "invalid escape"
  | .invalidNumber => "invalid number"
  | .numberOutOfRange => "number out of range"
  | .invalidCodePoint => "invalid unicode code point"
  | .controlCharacter =>
    "control character (\\u0000-\\u001F) found while parsing a string"
  | .keyNotString => "key must be a string"
  | .loneSurrogate => "lone leading surrogate in hex escape"
  | .unfinishedSurrogate => "unexpected end of hex escape"
  | .trailingComma => "trailing comma"
  | .trailingCharacters => "trailing characters"
  | .tooDeep => "recursion limit exceeded"
  | .wrongKind found expected => "invalid type: " ++ found.describe ++ ", expected " ++ expected
  | .wrongLength length expected =>
    "invalid length " ++ toString length ++ ", expected " ++ expected
  | .unknownName name choices =>
    "unknown variant `" ++ name ++ "`, expected one of " ++
      Text.join ", " (choices.map fun choice => "`" ++ choice ++ "`")
  | .missingField name => "missing field `" ++ name ++ "`"
  | .repeatedField name => "duplicate field `" ++ name ++ "`"
  | .deviceFailure text => text

/-- A problem and where it was met, if that is known. -/
structure Fault where
  problem : Problem
  position : Option Position
  deriving DecidableEq, Repr

/-- The text of a fault. -/
def Fault.message (fault : Fault) : String :=
  match fault.position with
  | some p =>
    fault.problem.message ++ " at line " ++ toString p.line ++ " column " ++ toString p.column
  | none => fault.problem.message

end AbiBindings.Json
