/-!
# Sets of code points

A Unicode property is a set of code points that falls into few runs. `CodePointSet` keeps such a
set as the ascending list of the points where membership changes, so that a code point belongs to
the set exactly when an odd number of those points lie at or below it.
-/

set_option autoImplicit false

namespace AbiBindings.Text

/-- A set of code points, given by the ascending list of points where membership changes: the
first point is the first member, the second the first non-member after it, and so on. -/
structure CodePointSet where
  /-- The points where membership changes, in ascending order. -/
  changes : List Nat

namespace CodePointSet

/-- Whether a code point belongs to the set. -/
def contains (set : CodePointSet) (c : Char) : Bool :=
  set.changes.countP (fun point => point ≤ c.toNat) % 2 == 1

end CodePointSet

end AbiBindings.Text
