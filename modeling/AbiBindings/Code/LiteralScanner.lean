import AbiBindings.Code.Identifier
import AbiBindings.Text.Hex

/-!
# Finding the end of a literal

Each function takes a text and answers with what follows the literal at its front, or nothing if
no such literal stands there: strings and raw strings, byte and null-terminated strings,
characters, bytes, integers and floating point numbers, with an optional suffix.
-/

set_option autoImplicit false

namespace AbiBindings.Code.LiteralScanner

/-- What follows a suffix, which is any word that is not in raw form. -/
def afterSuffix (cs : List Char) : List Char :=
  match takeWord? cs with
  | some (_, behind) => behind
  | none => cs

/-- What the content of a quoted literal may hold. -/
inductive Content where
  /-- Any characters. -/
  | text
  /-- ASCII characters, and any byte by its number. -/
  | bytes
  /-- Any characters but NUL, and any byte by its number. -/
  | terminated
  deriving DecidableEq

/-- Whether two hexadecimal digits may follow `\x`. -/
def allowsByte (content : Content) (high low : Nat) : Bool :=
  match content with
  | .text => high < 8
  | .bytes => true
  | .terminated => high != 0 || low != 0

/-- What follows the hexadecimal digits and the closing brace of a code point escape, of which
`count` digits with the value `value` have been read. -/
def afterCodePoint? (content : Content) : Nat → Nat → List Char → Option (List Char)
  | _, _, [] => none
  | count, value, c :: rest =>
    if c == '\x7d' then
      if count > 0 && Nat.isValidChar value && !(content == .terminated && value == 0) then some rest
      else none
    else if c == '_' then
      if count > 0 then afterCodePoint? content count value rest else none
    else
      match Text.hexValue? c with
      | some digit =>
        if count < 6 then afterCodePoint? content (count + 1) (16 * value + digit) rest else none
      | none => none

/-- What follows the blanks at the start of a line after a line break that is escaped. The text
may not end there, and a carriage return stands before a line feed only. -/
def afterLineBreak? : List Char → Option (List Char)
  | '\r' :: '\n' :: rest => afterLineBreak? rest
  | '\r' :: _ => none
  | ' ' :: rest => afterLineBreak? rest
  | '\t' :: rest => afterLineBreak? rest
  | '\n' :: rest => afterLineBreak? rest
  | [] => none
  | cs => some cs

/-- What follows an escape, given what stands behind its backslash. -/
def afterEscape? (content : Content) : List Char → Option (List Char)
  | 'x' :: high :: low :: rest =>
    match Text.hexValue? high, Text.hexValue? low with
    | some h, some l => if allowsByte content h l then some rest else none
    | _, _ => none
  | 'u' :: '\x7b' :: rest =>
    if content == .bytes then none else afterCodePoint? content 0 0 rest
  | '0' :: rest => if content == .terminated then none else some rest
  | 'n' :: rest => some rest
  | 'r' :: rest => some rest
  | 't' :: rest => some rest
  | '\\' :: rest => some rest
  | '\'' :: rest => some rest
  | '"' :: rest => some rest
  | _ => none

/-- Whether a character may stand between quotes. -/
def allowsChar (content : Content) (c : Char) : Bool :=
  match content with
  | .text => true
  | .bytes => c.toNat < 0x80
  | .terminated => c != '\x00'

/-- What follows a quoted literal whose opening quote has been read, within `fuel` steps. -/
def afterQuoted? (content : Content) : Nat → List Char → Option (List Char)
  | 0, _ => none
  | _ + 1, [] => none
  | fuel + 1, c :: rest =>
    if c == '"' then some (afterSuffix rest)
    else if c == '\r' then
      match rest with
      | '\n' :: behind => afterQuoted? content fuel behind
      | _ => none
    else if c == '\\' then
      match rest with
      | '\n' :: behind => (afterLineBreak? behind).bind (afterQuoted? content fuel)
      | '\r' :: _ => (afterLineBreak? rest).bind (afterQuoted? content fuel)
      | _ => (afterEscape? content rest).bind (afterQuoted? content fuel)
    else if allowsChar content c then afterQuoted? content fuel rest
    else none

/-- What follows a raw literal, given the number of its hash signs and what stands behind its
opening quote. -/
def afterRaw? (content : Content) (hashes : Nat) : List Char → Option (List Char)
  | [] => none
  | '"' :: rest =>
    if rest.take hashes == List.replicate hashes '#' then some (afterSuffix (rest.drop hashes))
    else afterRaw? content hashes rest
  | '\r' :: '\n' :: rest => afterRaw? content hashes rest
  | '\r' :: _ => none
  | c :: rest => if allowsChar content c then afterRaw? content hashes rest else none

/-- What follows a raw literal, given what stands behind its letters. -/
def afterHashes? (content : Content) (cs : List Char) : Option (List Char) :=
  let hashes := (cs.takeWhile (· == '#')).length
  match cs.drop hashes with
  | '"' :: rest => if hashes ≤ 255 then afterRaw? content hashes rest else none
  | _ => none

/-- What follows a character or byte literal whose opening quote has been read. -/
def afterSingle? (content : Content) (cs : List Char) : Option (List Char) :=
  let behind := match cs with
    | '\\' :: rest => afterEscape? content rest
    | c :: rest => if allowsChar content c then some rest else none
    | [] => none
  match behind with
  | some ('\'' :: rest) => some (afterSuffix rest)
  | _ => none

/-- The text itself, unless a word would go on there. -/
def atWordEnd? : List Char → Option (List Char)
  | [] => some []
  | c :: rest => if Text.isIdentifierContinue c then none else some (c :: rest)

/-- What follows a number, given what stands behind its digits: a suffix, and no further letter. -/
def afterNumber? (cs : List Char) : Option (List Char) :=
  atWordEnd? (afterSuffix cs)

/-- What follows the digits of an integer in a base; `started` once a digit has been read. A
decimal integer does not start with an underscore. -/
def afterDigits? (base : Nat) : Bool → List Char → Option (List Char)
  | started, [] => if started then some [] else none
  | started, c :: rest =>
    if '0' ≤ c && c ≤ '9' then
      if c.toNat - '0'.toNat < base then afterDigits? base true rest else none
    else if c == '_' then
      if !started && base == 10 then none else afterDigits? base started rest
    else if base == 16 && (Text.hexValue? c).isSome then afterDigits? base true rest
    else if started then some (c :: rest)
    else none

/-- What follows an integer. -/
def afterInteger? : List Char → Option (List Char)
  | '0' :: 'x' :: rest => (afterDigits? 16 false rest).bind afterNumber?
  | '0' :: 'o' :: rest => (afterDigits? 8 false rest).bind afterNumber?
  | '0' :: 'b' :: rest => (afterDigits? 2 false rest).bind afterNumber?
  | cs => (afterDigits? 10 false cs).bind afterNumber?

/-- Whether a character is a decimal digit or an underscore. -/
def isDigitOrBlank (c : Char) : Bool :=
  ('0' ≤ c && c ≤ '9') || c == '_'

/-- What follows the digits of an exponent, nothing if there is none. A sign comes first, if any,
and an underscore is no digit. -/
def afterExponent? (cs : List Char) : Option (List Char) :=
  let unsigned := match cs.dropWhile (· == '_') with
    | '+' :: rest => rest
    | '-' :: rest => rest
    | _ => cs
  if (unsigned.takeWhile isDigitOrBlank).any (· != '_') then
    some (unsigned.dropWhile isDigitOrBlank)
  else none

/-- What follows the point and the exponent of a floating point number, given what stands behind
its leading digits. -/
def afterFraction? : List Char → Option (List Char)
  | '.' :: rest =>
    let goesOn := match rest with
      | c :: _ => c == '.' || Text.isIdentifierStart c
      | [] => false
    if goesOn then none
    else
      let behind := rest.dropWhile isDigitOrBlank
      match behind with
      | e :: exponent =>
        if e == 'e' || e == 'E' then some ((afterExponent? exponent).getD behind) else some behind
      | [] => some []
  | e :: exponent => if e == 'e' || e == 'E' then afterExponent? exponent else none
  | [] => none

/-- What follows a floating point number. -/
def afterFloat? : List Char → Option (List Char)
  | [] => none
  | c :: rest =>
    if '0' ≤ c && c ≤ '9' then
      (afterFraction? (rest.dropWhile isDigitOrBlank)).bind afterNumber?
    else none

/-- What follows a quoted literal at the front, of any kind. -/
def afterText? (cs : List Char) : Option (List Char) :=
  match cs with
  | '"' :: rest => afterQuoted? .text cs.length rest
  | 'r' :: rest => afterHashes? .text rest
  | 'b' :: '"' :: rest => afterQuoted? .bytes cs.length rest
  | 'b' :: 'r' :: rest => afterHashes? .bytes rest
  | 'c' :: '"' :: rest => afterQuoted? .terminated cs.length rest
  | 'c' :: 'r' :: rest => afterHashes? .terminated rest
  | 'b' :: '\'' :: rest => afterSingle? .bytes rest
  | '\'' :: rest => afterSingle? .text rest
  | _ => none

/-- What follows the literal at the front. -/
def afterLiteral? (cs : List Char) : Option (List Char) :=
  match afterText? cs with
  | some rest => some rest
  | none =>
    match afterFloat? cs with
    | some rest => some rest
    | none => afterInteger? cs

end AbiBindings.Code.LiteralScanner
