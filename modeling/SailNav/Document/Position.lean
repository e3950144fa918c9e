/-!
# Positions

How an editor points into a text: by line and by column. Lines are counted from zero, and a column
is a number of UTF-16 units.
-/

namespace SailNav

/-- A point in a text. -/
structure Position where
  line : Nat
  column : Nat
  deriving DecidableEq, Repr, Inhabited

/-- Two points of a text, from the first up to the second. -/
structure Range where
  start : Position
  stop : Position
  deriving DecidableEq, Repr, Inhabited

end SailNav
