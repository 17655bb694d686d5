/-!
# Joining and splitting

`join` writes texts one after the other with a separator between them, `splitAt` cuts a list at
each element of a class and keeps the empty pieces.
-/

set_option autoImplicit false

namespace AbiBindings.Text

/-- The texts of a list one after the other, with a separator between two neighbours. -/
def join (separator : String) : List String → String
  | [] => ""
  | [s] => s
  | s :: rest => s ++ separator ++ join separator rest

/-- The pieces of a list between the elements for which `isSeparator` holds. A list with `n`
separators has `n + 1` pieces, some of them possibly empty. -/
def splitAt {α : Type} (isSeparator : α → Bool) : List α → List (List α)
  | [] => [[]]
  | a :: rest =>
    if isSeparator a then
      [] :: splitAt isSeparator rest
    else
      match splitAt isSeparator rest with
      | [] => [[a]]
      | piece :: pieces => (a :: piece) :: pieces

/-- Cuts a text at every character for which `isSeparator` holds. -/
def split (isSeparator : Char → Bool) (s : String) : List String :=
  (splitAt isSeparator s.toList).map String.ofList

end AbiBindings.Text
