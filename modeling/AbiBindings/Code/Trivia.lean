import AbiBindings.Text.Blank

/-!
# Blanks and comments between tokens

`skipTrivia` passes over blanks and ordinary comments. Documentation comments are tokens and stay:
`///` and `/**` unless a third slash or star follows, `//!` and `/*!`. Block comments nest.
-/

set_option autoImplicit false

namespace AbiBindings.Code

/-- Whether a character separates tokens: a blank or a left-to-right or right-to-left mark, of the
ASCII characters only the space and the controls from tab to carriage return. -/
def isSeparator (c : Char) : Bool :=
  Text.isBlank c || c == '\u200E' || c == '\u200F'

/-- What follows a block comment of which `depth` levels are open, nothing if it does not end. -/
def afterBlockComment : Nat → List Char → Option (List Char)
  | depth, '/' :: '*' :: rest => afterBlockComment (depth + 1) rest
  | depth, '*' :: '/' :: rest => if depth ≤ 1 then some rest else afterBlockComment (depth - 1) rest
  | depth, _ :: rest => afterBlockComment depth rest
  | _, [] => none

/-- What follows a line comment, from its line feed on. -/
def afterLine (cs : List Char) : List Char :=
  cs.dropWhile (· != '\n')

/-- Whether two slashes followed by these characters begin a documentation comment. -/
def isDocLine : List Char → Bool
  | '!' :: _ => true
  | '/' :: '/' :: _ => false
  | '/' :: _ => true
  | _ => false

/-- Whether a slash and a star followed by these characters begin a documentation comment. -/
def isDocBlock : List Char → Bool
  | '!' :: _ => true
  | '*' :: '/' :: _ => false
  | '*' :: '*' :: _ => false
  | '*' :: _ => true
  | _ => false

/-- What follows one blank or comment at the front, nothing if there is none. -/
def skipOne? : List Char → Option (List Char)
  | '/' :: '/' :: rest => if isDocLine rest then none else some (afterLine rest)
  | '/' :: '*' :: rest => if isDocBlock rest then none else afterBlockComment 1 rest
  | c :: rest => if isSeparator c then some rest else none
  | [] => none

/-- What follows a block comment is shorter than the comment. -/
theorem length_afterBlockComment_le {depth : Nat} {cs rest : List Char}
    (h : afterBlockComment depth cs = some rest) : rest.length ≤ cs.length := by
  fun_induction afterBlockComment depth cs <;> simp_all <;> omega

/-- A line comment ends no later than the text. -/
theorem length_afterLine_le (cs : List Char) : (afterLine cs).length ≤ cs.length :=
  (List.dropWhile_sublist _).length_le

/-- Skipping a blank or a comment leaves less text. -/
theorem length_skipOne_lt {cs rest : List Char} (h : skipOne? cs = some rest) :
    rest.length < cs.length := by
  unfold skipOne? at h
  split at h
  · split at h
    · simp at h
    · injection h with h
      subst h
      exact Nat.lt_of_le_of_lt (length_afterLine_le _) (by simp only [List.length_cons]; omega)
  · split at h
    · simp at h
    · exact Nat.lt_of_le_of_lt (length_afterBlockComment_le h) (by simp only [List.length_cons]; omega)
  · split at h
    · injection h with h
      subst h
      simp
    · simp at h
  · simp at h

/-- The text behind all blanks and comments at its front. -/
def skipTrivia (cs : List Char) : List Char :=
  match _h : skipOne? cs with
  | some rest => skipTrivia rest
  | none => cs
termination_by cs.length
decreasing_by exact length_skipOne_lt _h

end AbiBindings.Code
