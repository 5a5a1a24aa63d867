/-
  VisualNovel.Text.CharSet

  Sets of characters given by ranges of code points.
-/

namespace VisualNovel.Text

/-- A set of characters: ranges of code points in ascending order, each with its first and its last. -/
structure CharSet where
  ranges : List (Nat × Nat)
  deriving DecidableEq, Repr

namespace CharSet

/-- Whether a character lies in one of the ranges. -/
def contains (s : CharSet) (c : Char) : Bool :=
  s.ranges.any fun r => r.1 ≤ c.toNat && c.toNat ≤ r.2

end CharSet

end VisualNovel.Text
