/-!
# Sets of characters

A set of characters is given by its boundaries: the code points, in ascending order, at which
membership changes, beginning outside the set.
-/

namespace AccountPanel.Text

/-- A set of characters. -/
structure CharSet where
  boundaries : List Nat

/-- A character belongs to the set if an odd number of boundaries lie at or before it. -/
def CharSet.contains (set : CharSet) (character : Char) : Bool :=
  (set.boundaries.takeWhile (· ≤ character.toNat)).length % 2 == 1

end AccountPanel.Text
