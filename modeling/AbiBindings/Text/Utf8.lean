/-!
# UTF-8

`front` reads one character from the front of a byte sequence, or says how many bytes to give up:
the longest run that begins a character and cannot be completed, one byte at least. `decodeLossy`
puts the replacement character for each such run, `decode?` refuses it, `undecoded` is what begins
with it, and `encode` writes characters as bytes.
-/

set_option autoImplicit false

namespace AbiBindings.Text.Utf8

/-- What stands at the front of a byte sequence. -/
inductive Front where
  /-- A character and the bytes after it. -/
  | char (c : Char) (rest : List UInt8)
  /-- Bytes that no character begins with, given up together, and the bytes after them. -/
  | broken (rest : List UInt8)

/-- Whether a byte continues a character. -/
def isContinuation (b : UInt8) : Bool :=
  0x80 ≤ b && b ≤ 0xBF

/-- Whether a byte may follow the first byte of a three-byte character. -/
def followsThree (first second : UInt8) : Bool :=
  if first == 0xE0 then 0xA0 ≤ second && second ≤ 0xBF
  else if first == 0xED then 0x80 ≤ second && second ≤ 0x9F
  else isContinuation second

/-- Whether a byte may follow the first byte of a four-byte character. -/
def followsFour (first second : UInt8) : Bool :=
  if first == 0xF0 then 0x90 ≤ second && second ≤ 0xBF
  else if first == 0xF4 then 0x80 ≤ second && second ≤ 0x8F
  else isContinuation second

/-- The character of a two-byte sequence. -/
def assembleTwo (a b : UInt8) : Char :=
  Char.ofNat ((a.toNat - 0xC0) * 64 + (b.toNat - 0x80))

/-- The character of a three-byte sequence. -/
def assembleThree (a b c : UInt8) : Char :=
  Char.ofNat ((a.toNat - 0xE0) * 4096 + (b.toNat - 0x80) * 64 + (c.toNat - 0x80))

/-- The character of a four-byte sequence. -/
def assembleFour (a b c d : UInt8) : Char :=
  Char.ofNat ((a.toNat - 0xF0) * 262144 + (b.toNat - 0x80) * 4096 + (c.toNat - 0x80) * 64 +
    (d.toNat - 0x80))

/-- Reads what stands at the front of a byte followed by further bytes. -/
def front (a : UInt8) (rest : List UInt8) : Front :=
  if a < 0x80 then
    .char (Char.ofNat a.toNat) rest
  else if 0xC2 ≤ a && a ≤ 0xDF then
    match rest with
    | b :: rest₂ => if isContinuation b then .char (assembleTwo a b) rest₂ else .broken rest
    | [] => .broken []
  else if 0xE0 ≤ a && a ≤ 0xEF then
    match rest with
    | b :: rest₂ =>
      if followsThree a b then
        match rest₂ with
        | c :: rest₃ =>
          if isContinuation c then .char (assembleThree a b c) rest₃ else .broken rest₂
        | [] => .broken []
      else .broken rest
    | [] => .broken []
  else if 0xF0 ≤ a && a ≤ 0xF4 then
    match rest with
    | b :: rest₂ =>
      if followsFour a b then
        match rest₂ with
        | c :: rest₃ =>
          if isContinuation c then
            match rest₃ with
            | d :: rest₄ =>
              if isContinuation d then .char (assembleFour a b c d) rest₄ else .broken rest₃
            | [] => .broken []
          else .broken rest₂
        | [] => .broken []
      else .broken rest
    | [] => .broken []
  else
    .broken rest

/-- The bytes that remain after what stands at the front. -/
def Front.rest : Front → List UInt8
  | .char _ rest => rest
  | .broken rest => rest

/-- Reading the front never lengthens the bytes after the first. -/
theorem length_rest_front_le (a : UInt8) (rest : List UInt8) :
    (front a rest).rest.length ≤ rest.length := by
  unfold front
  repeat' split
  all_goals simp [Front.rest]
  all_goals omega

/-- The character that stands for bytes which are not UTF-8. -/
def replacement : Char := '\uFFFD'

/-- The characters of a byte sequence, with one replacement character for each run of bytes that
is given up. -/
def decodeLossy : List UInt8 → List Char
  | [] => []
  | a :: rest =>
    match h : front a rest with
    | .char c rest' =>
      have : rest'.length ≤ rest.length := by
        simpa [h, Front.rest] using length_rest_front_le a rest
      c :: decodeLossy rest'
    | .broken rest' =>
      have : rest'.length ≤ rest.length := by
        simpa [h, Front.rest] using length_rest_front_le a rest
      replacement :: decodeLossy rest'
termination_by bytes => bytes.length

/-- The characters of a byte sequence, nothing if some bytes are not UTF-8. -/
def decode? : List UInt8 → Option (List Char)
  | [] => some []
  | a :: rest =>
    match h : front a rest with
    | .char c rest' =>
      have : rest'.length ≤ rest.length := by
        simpa [h, Front.rest] using length_rest_front_le a rest
      (decode? rest').map (c :: ·)
    | .broken _ => none
termination_by bytes => bytes.length

/-- What remains of a byte sequence from the first byte on that is not UTF-8. -/
def undecoded : List UInt8 → List UInt8
  | [] => []
  | a :: rest =>
    match h : front a rest with
    | .char _ rest' =>
      have : rest'.length ≤ rest.length := by
        simpa [h, Front.rest] using length_rest_front_le a rest
      undecoded rest'
    | .broken _ => a :: rest
termination_by bytes => bytes.length

/-- The bytes of one character. -/
def encodeChar (c : Char) : List UInt8 :=
  let n := c.toNat
  if n < 0x80 then
    [n.toUInt8]
  else if n < 0x800 then
    [(0xC0 + n / 64).toUInt8, (0x80 + n % 64).toUInt8]
  else if n < 0x10000 then
    [(0xE0 + n / 4096).toUInt8, (0x80 + n / 64 % 64).toUInt8, (0x80 + n % 64).toUInt8]
  else
    [(0xF0 + n / 262144).toUInt8, (0x80 + n / 4096 % 64).toUInt8, (0x80 + n / 64 % 64).toUInt8,
      (0x80 + n % 64).toUInt8]

/-- The bytes of a list of characters. -/
def encodeChars (cs : List Char) : List UInt8 :=
  cs.flatMap encodeChar

/-- The bytes of a text. -/
def encode (s : String) : List UInt8 :=
  encodeChars s.toList

/-- The text of a byte sequence, with replacement characters where it is not UTF-8. -/
def textLossy (bytes : List UInt8) : String :=
  String.ofList (decodeLossy bytes)

/-- The text of a byte sequence, nothing if it is not UTF-8. -/
def text? (bytes : List UInt8) : Option String :=
  (decode? bytes).map String.ofList

end AbiBindings.Text.Utf8
