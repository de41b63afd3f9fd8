-- Whole numbers that a word of so many bits holds, with a sign and without.

namespace DelugeAssist.Width

/-- How many values so many bits have. -/
def values (bits : Nat) : Nat := Nat.pow 2 bits

/-- The greatest whole number without a sign. -/
def greatest (bits : Nat) : Nat := values bits - 1

/-- Whether a whole number fits without a sign. -/
def holdsUnsigned (bits : Nat) (n : Int) : Bool := 0 ≤ n && n < values bits

/-- Whether a whole number fits with a sign, which takes a bit of its own. -/
def holdsSigned (bits : Nat) (n : Int) : Bool :=
  -(values (bits - 1) : Int) ≤ n && n < values (bits - 1)

end DelugeAssist.Width
