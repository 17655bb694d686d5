import AbiBindings.Bindings.Source
import AbiBindings.Proofs.Names
import AbiBindings.Proofs.Representation

/-!
# The code of a type is read back

With integers of exactly the declared width, the code of a type is made of a few words and numbers
in three kinds of brackets. `typeOfCode` reads its characters one after the other, with a stack of
the brackets that are open, and finds the type again, without the names of components. Hence types
that differ in more than these names have different code (`exactCode_eq_iff`).
-/

set_option autoImplicit false

namespace AbiBindings.Bindings

open Abi Code Naming

/-- The code of a type if integers keep the width they declare. -/
def exactCode (type : ParamType) : String :=
  render (typeTokens (.ofType .exact type))

/-! ## The reader -/

/-- A type that has been read, or a word of the code that is a part of one. -/
inductive Piece where
  | type (type : ParamType)
  | number (n : Nat)
  | byte
  | vector
  | unsigned
  | signed

/-- The words that matter; those of paths do not. -/
def Piece.names : List (String × Piece) := [
  ("bool", .type .bool), ("Address", .type .address), ("String", .type .string), ("u8", .byte),
  ("Vec", .vector), ("Uint", .unsigned), ("Int", .signed)]

/-- What a word stands for, if it matters. -/
def piece? (word : String) : Option Piece :=
  match Text.numeral? word.toList with
  | some n => some (.number n)
  | none => Piece.names.lookup word

/-- The type that a piece is. -/
def Piece.type? : Piece → Option ParamType
  | .type found => some found
  | _ => none

/-- What a bracket makes of the pieces before it, given the pieces inside, both last first. -/
def closed : Char → List Piece → List Piece → List Piece
  | '>', [.byte], .vector :: before => .type .bytes :: before
  | '>', [.type element], .vector :: before => .type (.array element) :: before
  | '>', [.number bits], .unsigned :: before => .type (.uint bits) :: before
  | '>', [.number bits], .signed :: before => .type (.int bits) :: before
  | ']', [.number size, .byte], before => .type (.fixedBytes size) :: before
  | ']', [.number length, .type element], before => .type (.fixedArray element length) :: before
  | ')', inside, before =>
    .type (.tuple (ParamType.asComponents (inside.filterMap Piece.type?).reverse)) :: before
  | _, _, before => before

/-- How far code has been read. -/
structure Reading where
  /-- The word that is being read. -/
  word : List Char
  /-- The pieces in the innermost bracket, the last first. -/
  inside : List Piece
  /-- The pieces before each bracket that is open, the innermost first. -/
  outside : List (List Piece)

namespace Reading

/-- The word is read to its end. -/
def endWord (r : Reading) : Reading :=
  ⟨[], (piece? (String.ofList r.word)).toList ++ r.inside, r.outside⟩

/-- A bracket is opened. -/
def enter (r : Reading) : Reading :=
  ⟨[], [], r.inside :: r.outside⟩

/-- A bracket is closed. -/
def leave (c : Char) (r : Reading) : Reading :=
  match r.outside with
  | before :: outside => ⟨[], closed c r.inside before, outside⟩
  | [] => r

/-- A character is read. -/
def read (r : Reading) (c : Char) : Reading :=
  if isNameChar c then { r with word := r.word ++ [c] }
  else if ['<', '[', '('].contains c then r.endWord.enter
  else if ['>', ']', ')'].contains c then r.endWord.leave c
  else r.endWord

end Reading

/-! ## Reading tokens -/

/-- What has been read behind tokens and the end of their last word. -/
def readTokens (tokens : List Token) (r : Reading) : Reading :=
  ((render tokens).toList.foldl Reading.read r).endWord

/-- Whether a token cannot grow together with a word behind it. -/
def isSeparate : Token → Bool
  | .mark c true => !isNameChar c
  | _ => true

/-- Behind tokens no word is left unfinished. -/
theorem word_readTokens (tokens : List Token) (r : Reading) : (readTokens tokens r).word = [] :=
  rfl

/-- Where no word is unfinished, none is ended. -/
theorem endWord_eq_self {r : Reading} (h : r.word = []) : r.endWord = r := by
  have hnone : piece? "" = none := by decide +kernel
  obtain ⟨word, inside, outside⟩ := r
  obtain rfl : word = [] := h
  rw [Reading.endWord, String.ofList_nil, hnone]
  rfl

/-- Leaving brackets leaves no word unfinished. -/
theorem word_leave {r : Reading} (h : r.word = []) (c : Char) : (r.leave c).word = [] := by
  unfold Reading.leave
  split
  · rfl
  · exact h

/-- A character that no name has ends a word. -/
theorem word_read_of_not_isNameChar (r : Reading) {c : Char} (h : ¬ isNameChar c) :
    (r.read c).word = [] := by
  unfold Reading.read
  rw [if_neg h]
  split
  · rfl
  · split
    · exact word_leave (word_readTokens [] r) c
    · rfl

/-- An opening bracket is entered. -/
theorem read_opening {c : Char} (h : ['<', '[', '('].contains c) {r : Reading} (hr : r.word = []) :
    r.read c = r.enter := by
  have hname : ['<', '[', '('].all fun c => !isNameChar c := by decide
  have hc : ¬ isNameChar c := by
    simpa using List.all_eq_true.1 hname c (List.contains_iff_mem.1 h)
  rw [Reading.read, if_neg hc, if_pos h, endWord_eq_self hr]

/-- A closing bracket ends a word and is left. -/
theorem read_closing {c : Char} (h : ['>', ']', ')'].contains c) (r : Reading) :
    r.read c = r.endWord.leave c := by
  have hothers : ['>', ']', ')'].all fun c => !isNameChar c && !(['<', '[', '('].contains c) := by
    decide
  have hc : ¬ isNameChar c ∧ ¬ ['<', '[', '('].contains c := by
    simpa using List.all_eq_true.1 hothers c (List.contains_iff_mem.1 h)
  rw [Reading.read, if_neg hc.1, if_neg hc.2, if_pos h]

/-- Characters of names go on with a word. -/
theorem foldl_read_of_all_isNameChar {cs : List Char} (h : cs.all isNameChar) (r : Reading) :
    cs.foldl Reading.read r = { r with word := r.word ++ cs } := by
  induction cs generalizing r with
  | nil => simp
  | cons c cs ih =>
    rw [List.all_cons, Bool.and_eq_true] at h
    rw [List.foldl_cons, Reading.read, if_pos h.1, ih h.2]
    simp

/-- A mark is read as its character. -/
theorem readTokens_mark (c : Char) (joined : Bool) (r : Reading) :
    readTokens [.mark c joined] r = (r.read c).endWord := by
  have hrender : (render [.mark c joined]).toList = [c] := by
    rw [render, String.toList_join]
    simp [Token.listPieces, Token.pieces]
  rw [readTokens, hrender]
  rfl

/-- A token that stands apart is read on its own. -/
theorem readTokens_cons {token : Token} (h : isSeparate token) (rest : List Token) (r : Reading) :
    readTokens (token :: rest) r = readTokens rest (readTokens [token] r) := by
  have hone : (render [token]).toList = token.pieces.flatMap String.toList := by
    rw [render, String.toList_join, Token.listPieces, Token.listPieces]
    simp
  cases hrest : rest with
  | nil => exact (endWord_eq_self (word_readTokens _ _)).symm
  | cons next others =>
    have hall : (render (token :: next :: others)).toList =
        (render [token]).toList ++ token.gap.toList ++ (render (next :: others)).toList := by
      rw [hone, render, render, String.toList_join, String.toList_join, Token.listPieces]
      simp
    have hgap : token.gap.toList.foldl Reading.read ((render [token]).toList.foldl Reading.read r) =
        readTokens [token] r := by
      unfold Token.gap
      split
      · rename_i c
        have hend := endWord_eq_self (word_read_of_not_isNameChar r (by simpa [isSeparate] using h))
        rw [readTokens_mark, hend, hone]
        simp [Token.pieces]
      · rfl
    rw [readTokens, readTokens, hall, List.foldl_append, List.foldl_append, hgap]

/-- Tokens that stand apart are read before others. -/
theorem readTokens_append {tokens : List Token} (h : tokens.all isSeparate) (others : List Token)
    {r : Reading} (hr : r.word = []) :
    readTokens (tokens ++ others) r = readTokens others (readTokens tokens r) := by
  induction tokens generalizing r with
  | nil =>
    have hnil : readTokens [] r = r := endWord_eq_self hr
    rw [List.nil_append, hnil]
  | cons token tokens ih =>
    rw [List.all_cons, Bool.and_eq_true] at h
    rw [List.cons_append, readTokens_cons h.1, readTokens_cons h.1 tokens,
      ih h.2 (word_readTokens _ _)]

/-- A token of a path that stands for nothing. -/
def isPathToken : Token → Bool
  | .word text => text.toList.all isNameChar && (piece? text).isNone
  | .mark c _ => c == ':'
  | _ => false

/-- The tokens of paths stand apart. -/
theorem isSeparate_of_isPathToken {token : Token} (h : isPathToken token) : isSeparate token := by
  cases token with
  | mark c joined =>
    obtain rfl := beq_iff_eq.1 h
    cases joined <;> rfl
  | word text => rfl
  | literal text => rfl
  | group bracket body => rfl

section Steps

variable (inside : List Piece) (outside : List (List Piece))

/-- A token that is a word is read as the piece that the word stands for. -/
theorem readTokens_text {token : Token} {text : String} (htoken : token.pieces = [text])
    (h : text.toList.all isNameChar) : readTokens [token] ⟨[], inside, outside⟩ =
      ⟨[], (piece? text).toList ++ inside, outside⟩ := by
  have hrender : (render [token]).toList = text.toList := by
    rw [render, String.toList_join]
    simp [Token.listPieces, htoken]
  rw [readTokens, hrender, foldl_read_of_all_isNameChar h, Reading.endWord, List.nil_append,
    String.ofList_toList]

/-- The literal of a number is read as that number. -/
theorem readTokens_numberLiteral (n : Nat) :
    readTokens [numberLiteral n] ⟨[], inside, outside⟩ = ⟨[], .number n :: inside, outside⟩ := by
  have hpiece : piece? (toString n) = some (.number n) := by
    rw [piece?, Text.numeral?_toString]
  rw [readTokens_text inside outside rfl (all_isNameChar_toString n), hpiece]
  rfl

/-- The path before a name is passed over. -/
theorem readTokens_path {tokens : List Token} (h : tokens.all isPathToken) (rest : List Token) :
    readTokens (tokens ++ rest) ⟨[], inside, outside⟩ = readTokens rest ⟨[], inside, outside⟩ := by
  induction tokens with
  | nil => rfl
  | cons token tokens ih =>
    rw [List.all_cons, Bool.and_eq_true] at h
    obtain ⟨htoken, htokens⟩ := h
    rw [List.cons_append, readTokens_cons (isSeparate_of_isPathToken htoken)]
    cases token with
    | word text =>
      obtain ⟨hname, hpiece⟩ := Bool.and_eq_true_iff.1 htoken
      rw [readTokens_text inside outside rfl hname, Option.isNone_iff_eq_none.1 hpiece]
      exact ih htokens
    | mark c joined =>
      obtain rfl := beq_iff_eq.1 htoken
      have hcolon : ∀ r : Reading, r.read ':' = r.endWord := fun _ => rfl
      rw [readTokens_mark, hcolon, endWord_eq_self rfl, endWord_eq_self rfl]
      exact ih htokens
    | literal text => cases htoken
    | group bracket body => cases htoken

end Steps

/-- The arguments of a type are read within its brackets. -/
theorem readTokens_generic {type arguments : List Token} (htype : type.all isSeparate)
    (harguments : arguments.all isSeparate) {r : Reading} (hr : r.word = []) :
    readTokens (generic type arguments) r =
      (readTokens arguments (readTokens type r).enter).leave '>' := by
  have hopening : readTokens [.mark '<' false] (readTokens type r) = (readTokens type r).enter := by
    rw [readTokens_mark, read_opening rfl rfl]
    exact endWord_eq_self rfl
  have hclosing : ∀ {r' : Reading}, r'.word = [] →
      readTokens [.mark '>' false] r' = r'.leave '>' := by
    intro r' hr'
    rw [readTokens_mark, read_closing rfl, endWord_eq_self hr',
      endWord_eq_self (word_leave hr' '>')]
  rw [generic, List.append_assoc, readTokens_append htype _ hr, List.cons_append,
    readTokens_cons rfl, hopening, readTokens_append harguments _ rfl, hclosing rfl]

/-- A group is written as its body between brackets. -/
theorem render_group {bracket : Bracket} (body : List Token) (h : bracket ≠ .curly) :
    (render [.group bracket body]).toList =
      bracket.opening.toList ++ (render body).toList ++ bracket.closing.toList := by
  rw [render, render, String.toList_join, String.toList_join]
  simp [Token.listPieces, Token.pieces, h]

/-- Tokens in brackets are read between an opening and a closing character. -/
theorem readTokens_group {bracket : Bracket} (opening closing : Char) (h : bracket ≠ .curly)
    (hopening : bracket.opening = String.singleton opening)
    (hclosing : bracket.closing = String.singleton closing)
    (hopens : ['<', '[', '('].contains opening) (hcloses : ['>', ']', ')'].contains closing)
    (body : List Token) {r : Reading} (hr : r.word = []) :
    readTokens [.group bracket body] r = (readTokens body r.enter).leave closing := by
  rw [readTokens, render_group body h, hopening, hclosing, String.toList_singleton,
    String.toList_singleton, List.foldl_append, List.foldl_append, List.foldl_cons, List.foldl_cons,
    read_opening hopens hr, read_closing hcloses]
  exact endWord_eq_self (word_leave (word_readTokens body r.enter) closing)

/-- Square brackets are entered and left. -/
theorem readTokens_square (body : List Token) {r : Reading} (hr : r.word = []) :
    readTokens [square body] r = (readTokens body r.enter).leave ']' :=
  readTokens_group '[' ']' (by decide) rfl rfl rfl rfl body hr

/-- Round brackets are entered and left. -/
theorem readTokens_round (body : List Token) {r : Reading} (hr : r.word = []) :
    readTokens [round body] r = (readTokens body r.enter).leave ')' :=
  readTokens_group '(' ')' (by decide) rfl rfl rfl rfl body hr

/-! ## The tokens of types -/

/-- The tokens of a type with arguments stand apart. -/
theorem all_isSeparate_generic {type arguments : List Token} (htype : type.all isSeparate)
    (harguments : arguments.all isSeparate) : (generic type arguments).all isSeparate := by
  rw [generic, List.all_append, List.all_append, List.all_cons, htype, harguments]
  rfl

/-- The name of a type behind a path. -/
theorem all_isSeparate_path {tokens : List Token} (h : tokens.all isPathToken) (name : String) :
    (tokens ++ [nameToken name]).all isSeparate := by
  have htokens : tokens.all isSeparate := by
    rw [List.all_eq_true] at h ⊢
    exact fun token htoken => isSeparate_of_isPathToken (h token htoken)
  rw [List.all_append, htokens]
  rfl

/-- The path of the vectors. -/
theorem all_isPathToken_vec : (phrase ":: std :: vec ::").all isPathToken := by
  decide +kernel

/-- The code of bytes is a vector of bytes. -/
theorem typeTokens_bytes :
    typeTokens .bytes = generic (phrase ":: std :: vec ::" ++ [nameToken "Vec"]) [nameToken "u8"] :=
  rfl

/-- The code of an array is a vector. -/
theorem typeTokens_array (element : TypeDescriptor) : typeTokens (.array element none) =
    generic (phrase ":: std :: vec ::" ++ [nameToken "Vec"]) (typeTokens element) := by
  have hvec : phrase ":: std :: vec :: Vec" = phrase ":: std :: vec ::" ++ [nameToken "Vec"] := rfl
  rw [typeTokens, hvec]

/-- The code of bytes of fixed length is an array of bytes. -/
theorem typeTokens_fixedBytes (size : Nat) : typeTokens (.fixedBytes size) =
    [square ([nameToken "u8"] ++ .mark ';' false :: [numberLiteral size])] :=
  rfl

/-- The path of the integers of a declared width. -/
theorem all_isPathToken_sol : (phrase "self :: runtime :: sol ::").all isPathToken := by
  decide +kernel

/-- The path to the runtime is a path. -/
theorem all_isPathToken_runtime : (phrase "self :: runtime ::").all isPathToken := by
  decide +kernel

/-- No token of a type grows together with a word behind it. -/
theorem all_isSeparate_typeTokens (type : TypeDescriptor) : (typeTokens type).all isSeparate := by
  induction type using TypeDescriptor.shapeInduction with
  | elementary type h =>
    cases type with
    | address => exact all_isSeparate_path all_isPathToken_runtime _
    | bool | string | bytes => decide +kernel
    | fixedBytes size => rfl
    | integer signed bits repr =>
      cases repr with
      | primitive width => rfl
      | big => exact all_isSeparate_path all_isPathToken_runtime _
      | exact => exact all_isSeparate_generic (all_isSeparate_path all_isPathToken_sol _) rfl
    | array _ _ | tuple _ => simp [TypeDescriptor.isElementary] at h
  | array element length ih =>
    cases length with
    | some length => rfl
    | none =>
      rw [typeTokens_array]
      exact all_isSeparate_generic (all_isSeparate_path all_isPathToken_vec "Vec") ih
  | tuple components ih => rfl

/-! ## Reading types -/

/-- Whether tokens are read as a type, wherever they stand. -/
def IsReadAs (tokens : List Token) (type : ParamType) : Prop :=
  ∀ inside outside, readTokens tokens ⟨[], inside, outside⟩ = ⟨[], .type type :: inside, outside⟩

/-- A name behind a path is read as the piece that it stands for. -/
theorem readTokens_name {path : List Token} (h : path.all isPathToken) {name : String}
    (hname : name.toList.all isNameChar) {piece : Piece} (hpiece : piece? name = some piece)
    (inside : List Piece) (outside : List (List Piece)) :
    readTokens (path ++ [nameToken name]) ⟨[], inside, outside⟩ =
      ⟨[], piece :: inside, outside⟩ := by
  rw [readTokens_path inside outside h, readTokens_text inside outside rfl hname, hpiece]
  rfl

/-- A generic type is read as what the bracket makes of its name and its argument. -/
theorem isReadAs_generic {path argument : List Token} {name : String} {type : ParamType}
    {piece inner : Piece} (hpath : path.all isPathToken) (hname : name.toList.all isNameChar)
    (hpiece : piece? name = some piece) (hseparate : argument.all isSeparate)
    (hread : ∀ outside, readTokens argument ⟨[], [], outside⟩ = ⟨[], [inner], outside⟩)
    (htype : ∀ before, closed '>' [inner] (piece :: before) = .type type :: before) :
    IsReadAs (generic (path ++ [nameToken name]) argument) type := by
  intro inside outside
  rw [readTokens_generic (all_isSeparate_path hpath name) hseparate rfl,
    readTokens_name hpath hname hpiece, Reading.enter, hread]
  exact congrArg (fun pieces => Reading.mk [] pieces outside) (htype inside)

/-- A sequence of fixed length is read as what the bracket makes of its element and its length. -/
theorem isReadAs_sequence {element : List Token} {type : ParamType} {inner : Piece} {length : Nat}
    (hseparate : element.all isSeparate)
    (hread : ∀ outside, readTokens element ⟨[], [], outside⟩ = ⟨[], [inner], outside⟩)
    (htype : ∀ before, closed ']' [.number length, inner] before = .type type :: before) :
    IsReadAs [square (element ++ .mark ';' false :: [numberLiteral length])] type := by
  intro inside outside
  have hsemicolon : ∀ r : Reading, r.read ';' = r.endWord := fun _ => rfl
  rw [readTokens_square _ rfl, Reading.enter, readTokens_append hseparate _ rfl, hread,
    readTokens_cons rfl, readTokens_mark, hsemicolon, endWord_eq_self rfl, endWord_eq_self rfl,
    readTokens_numberLiteral]
  exact congrArg (fun pieces => Reading.mk [] pieces outside) (htype inside)

/-- The type of a byte is read as that. -/
theorem readTokens_byte (outside : List (List Piece)) :
    readTokens [nameToken "u8"] ⟨[], [], outside⟩ = ⟨[], [.byte], outside⟩ := by
  have hpath : ([] : List Token).all isPathToken := rfl
  exact readTokens_name hpath (by decide) rfl [] outside

/-- The code of an elementary type is read as that type. -/
theorem isReadAs_elementary {type : ParamType} (h : type.isElementary) :
    IsReadAs (typeTokens (.ofType .exact type)) type := by
  cases type with
  | address => exact readTokens_name all_isPathToken_runtime (by decide) rfl
  | bool =>
    have hpath : ([] : List Token).all isPathToken := rfl
    exact readTokens_name hpath (by decide) rfl
  | string =>
    have hpath : (phrase ":: std :: string ::").all isPathToken := by decide +kernel
    exact readTokens_name hpath (by decide) rfl
  | bytes =>
    rw [TypeDescriptor.ofType, typeTokens_bytes]
    exact isReadAs_generic all_isPathToken_vec (by decide) rfl rfl readTokens_byte fun _ => rfl
  | fixedBytes size =>
    rw [TypeDescriptor.ofType, typeTokens_fixedBytes]
    exact isReadAs_sequence rfl readTokens_byte fun _ => rfl
  | uint bits | int bits =>
    rw [TypeDescriptor.ofType, IntegerRepr.choose, typeTokens]
    exact isReadAs_generic all_isPathToken_sol (by decide) rfl rfl
      (fun outside => readTokens_numberLiteral [] outside bits) fun _ => rfl
  | array _ | fixedArray _ _ | tuple _ => simp [ParamType.isElementary] at h

/-- The code of mapped components is that of each mapped component. -/
theorem componentTokens_ofComponents (policy : TypePolicy)
    (components : List (String × ParamType)) :
    componentTokens (TypeDescriptor.ofComponents policy components) =
      components.map fun c => typeTokens (.ofType policy c.2) := by
  induction components with
  | nil => rfl
  | cons c rest ih => simp [TypeDescriptor.ofComponents, componentTokens, ih]

/-- Types with a comma behind each of them are read one after the other. -/
theorem readTokens_commaTerminated {α : Type} {code : α → List Token} {type : α → ParamType}
    {l : List α} (hseparate : ∀ a ∈ l, (code a).all isSeparate)
    (h : ∀ a ∈ l, IsReadAs (code a) (type a)) (inside : List Piece)
    (outside : List (List Piece)) :
    readTokens (commaTerminated (l.map code)) ⟨[], inside, outside⟩ =
      ⟨[], (l.map fun a => .type (type a)).reverse ++ inside, outside⟩ := by
  induction l generalizing inside with
  | nil => exact endWord_eq_self rfl
  | cons a l ih =>
    obtain ⟨ha, hl⟩ := List.forall_mem_cons.1 h
    obtain ⟨hsa, hsl⟩ := List.forall_mem_cons.1 hseparate
    have hcomma : ∀ r : Reading, r.read ',' = r.endWord := fun _ => rfl
    have hrest := ih hsl hl (.type (type a) :: inside)
    rw [commaTerminated] at hrest ⊢
    rw [List.map_cons, List.flatMap_cons, List.append_assoc, readTokens_append hsa _ rfl, ha,
      List.singleton_append, readTokens_cons rfl, readTokens_mark, hcomma, endWord_eq_self rfl,
      endWord_eq_self rfl, hrest]
    simp

/-- Types in round brackets are closed to a tuple. -/
theorem closed_round {α : Type} (type : α → ParamType) (l : List α) (before : List Piece) :
    closed ')' ((l.map fun a => Piece.type (type a)).reverse ++ []) before =
      .type (.tuple (ParamType.asComponents (l.map type))) :: before := by
  have hsome : (Piece.type? ∘ fun a => Piece.type (type a)) = some ∘ type := rfl
  have htypes : (l.map fun a => Piece.type (type a)).filterMap Piece.type? = l.map type := by
    rw [List.filterMap_map, hsome, List.filterMap_eq_map]
  rw [List.append_nil, closed, List.filterMap_reverse, htypes, List.reverse_reverse]

/-- The code of a type is read as that type without the names of components. -/
theorem isReadAs (type : ParamType) : IsReadAs (typeTokens (.ofType .exact type)) type.unnamed := by
  induction type using ParamType.shapeInduction with
  | elementary type h =>
    rw [ParamType.unnamed_of_isElementary h]
    exact isReadAs_elementary h
  | array element ih =>
    rw [TypeDescriptor.ofType, typeTokens_array]
    exact isReadAs_generic all_isPathToken_vec (by decide) rfl (all_isSeparate_typeTokens _) (ih [])
      fun _ => rfl
  | fixedArray element length ih =>
    rw [TypeDescriptor.ofType, typeTokens]
    exact isReadAs_sequence (all_isSeparate_typeTokens _) (ih []) fun _ => rfl
  | tuple components ih =>
    intro inside outside
    have hread := readTokens_commaTerminated (fun c _ => all_isSeparate_typeTokens _) ih []
      (inside :: outside)
    rw [TypeDescriptor.ofType, typeTokens, componentTokens_ofComponents, readTokens_round _ rfl,
      Reading.enter, hread, ParamType.unnamed, ParamType.unnamedComponents_eq]
    exact congrArg (fun pieces => Reading.mk [] pieces outside) (closed_round _ components inside)

/-! ## Types with the same code -/

/-- The type whose code a text is. -/
def typeOfCode (code : String) : Option ParamType :=
  match (code.toList.foldl Reading.read ⟨[], [], []⟩).endWord.inside with
  | [.type type] => some type
  | _ => none

/-- From the exact code of a type the type is read back, without the names of components. -/
theorem typeOfCode_exactCode (type : ParamType) :
    typeOfCode (exactCode type) = some type.unnamed := by
  have hinside : ((exactCode type).toList.foldl Reading.read ⟨[], [], []⟩).endWord.inside =
      [.type type.unnamed] :=
    congrArg Reading.inside (isReadAs type [] [])
  unfold typeOfCode
  rw [hinside]

/-- The names of components do not show in the code of a type. -/
theorem typeTokens_unnamed (policy : TypePolicy) (type : ParamType) :
    typeTokens (.ofType policy type.unnamed) = typeTokens (.ofType policy type) := by
  induction type using ParamType.shapeInduction with
  | elementary type h => rw [ParamType.unnamed_of_isElementary h]
  | array element ih =>
    rw [ParamType.unnamed, TypeDescriptor.ofType, TypeDescriptor.ofType, typeTokens_array,
      typeTokens_array, ih]
  | fixedArray element length ih =>
    rw [ParamType.unnamed, TypeDescriptor.ofType, TypeDescriptor.ofType, typeTokens, typeTokens, ih]
  | tuple components ih =>
    have hcode := ParamType.map_snd_asComponents (components.map fun c => c.2.unnamed)
      fun type => typeTokens (.ofType policy type)
    rw [ParamType.unnamed, TypeDescriptor.ofType, TypeDescriptor.ofType, typeTokens, typeTokens,
      componentTokens_ofComponents, componentTokens_ofComponents, ParamType.unnamedComponents_eq,
      hcode, List.map_map]
    exact congrArg (fun items => [round (commaTerminated items)]) (List.map_congr_left ih)

/-- Two types have the same code exactly if they differ in nothing but the names of components. -/
theorem exactCode_eq_iff {type other : ParamType} :
    exactCode type = exactCode other ↔ type.unnamed = other.unnamed := by
  constructor
  · intro h
    have hread := typeOfCode_exactCode type
    rw [h, typeOfCode_exactCode] at hread
    exact (Option.some.inj hread).symm
  · intro h
    rw [exactCode, exactCode, ← typeTokens_unnamed, h, typeTokens_unnamed]

example : (typeOfCode "[([u8 ; 4] , :: std :: vec :: Vec < bool > ,) ; 2]").map
    ParamType.canonical = some "(bytes4,bool[])[2]" := by
  decide +kernel

end AbiBindings.Bindings
