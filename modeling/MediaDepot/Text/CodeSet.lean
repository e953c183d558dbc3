/-!
# Sets of code points

A set of characters given by the code points at which membership changes: below the first change
nothing belongs to it, each change turns membership on or off. Every character table of this
library (blank characters, printable characters, letters with case) is such a set, so that a table
is data and membership is one function.
-/

namespace MediaDepot.Text

/-- A set of characters, as the ascending code points where membership is switched. -/
structure CodeSet where
  changes : List Nat

/-- Membership after all changes at or below `code`, from the membership `inside` before them. -/
def CodeSet.after (inside : Bool) (code : Nat) : List Nat → Bool
  | [] => inside
  | change :: rest => if change ≤ code then CodeSet.after (!inside) code rest else inside

/-- Does the character belong to the set? -/
def CodeSet.contains (set : CodeSet) (c : Char) : Bool :=
  CodeSet.after false c.toNat set.changes

end MediaDepot.Text
