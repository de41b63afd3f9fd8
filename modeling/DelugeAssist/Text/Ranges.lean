-- Sets of characters, told by ranges of their numbers.

namespace DelugeAssist

/-- Ranges of character numbers, in rising order, both ends included. -/
abbrev Ranges := List (Nat × Nat)

/-- Whether a character lies in one of the ranges. -/
def Ranges.contains (ranges : Ranges) (c : Char) : Bool :=
  ranges.any fun (first, last) => decide (first ≤ c.toNat) && decide (c.toNat ≤ last)

end DelugeAssist
