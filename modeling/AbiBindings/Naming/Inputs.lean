import AbiBindings.Naming.Casing

/-!
# Names of inputs

Every input of a function, an event or a constructor gets a name of its own: its name in lower
case, or `p` and its index if it has none. If the surrounding code or an input before it has taken
that name, a number is put behind it, the first that makes a free name, counted from the index of
the input.
-/

set_option autoImplicit false

namespace AbiBindings.Naming

/-- The name that an input gets if it is free. -/
def baseName (index : Nat) (name : String) : String :=
  if name = "" then "p" ++ toString index else snakeName name

/-- A name with a number behind it. -/
def numbered (base : String) (n : Nat) : String :=
  base ++ "_" ++ toString n

/-- The first free name of a base with a number from `n` on. A name that is taken is put aside
before the next number is tried, so that the names that are left grow fewer. -/
def firstFree (taken : List String) (base : String) (n : Nat) : String :=
  if h : numbered base n ∈ taken then firstFree (taken.erase (numbered base n)) base (n + 1)
  else numbered base n
termination_by taken.length
decreasing_by
  rw [List.length_erase_of_mem h]
  exact Nat.sub_one_lt (Nat.ne_of_gt (List.length_pos_of_mem h))

/-- The name of an input at a given index. -/
def inputName (taken : List String) (index : Nat) (name : String) : String :=
  let base := baseName index name
  if base ∈ taken then firstFree taken base index else base

/-- The names of inputs from a given index on. -/
def inputNamesFrom (taken : List String) (index : Nat) : List String → List String
  | [] => []
  | name :: rest =>
    let given := inputName taken index name
    given :: inputNamesFrom (given :: taken) (index + 1) rest

/-- The names of all inputs, given the names that are reserved. -/
def inputNames (reserved : List String) (names : List String) : List String :=
  inputNamesFrom reserved 0 names

end AbiBindings.Naming
