-- How alike two words are: how many characters they share at nearly the same places, and how many
-- of those stand in another order.

namespace DelugeAssist.Similarity

/-- A character of a word, and whether one of the other word is paired with it. -/
structure Slot where
  char : Char
  isTaken : Bool := false
deriving DecidableEq, Repr

/-- A word with its first free `c` taken, among the places from `low` to `high`. -/
def take? (c : Char) (low high : Nat) : (place : Nat) → List Slot → Option (List Slot)
  | _, [] => none
  | place, slot :: rest =>
    if low ≤ place ∧ place ≤ high ∧ slot = ⟨c, false⟩ then some (⟨c, true⟩ :: rest)
    else (take? c low high (place + 1) rest).map (slot :: ·)

/-- The characters from `place` on that find a partner no further away than `reach`, and the word of
their partners. -/
def pairUp (reach : Nat) : (place : Nat) → List Char → List Slot → List Char × List Slot
  | _, [], slots => ([], slots)
  | place, c :: rest, slots =>
    match take? c (place - reach) (place + reach) 0 slots with
    | none => pairUp reach (place + 1) rest slots
    | some slots =>
      let (shared, slots) := pairUp reach (place + 1) rest slots
      (c :: shared, slots)

/-- The characters that each of two words shares with the other, in its own order. -/
def sharedChars (a b : List Char) : List Char × List Char :=
  let reach := max a.length b.length / 2 - 1
  let (shared, slots) := pairUp reach 0 a (b.map (⟨·, false⟩))
  (shared, (slots.filter (·.isTaken)).map (·.char))

/-- How alike two words are, from 0 to 1: the mean of the shares of their characters that they have
in common, and of the share of those that stand in the same order. -/
def score (a b : List Char) : Rat :=
  let (ofA, ofB) := sharedChars a b
  let shared := ofA.length
  let swaps := ((ofA.zip ofB).countP fun pair => pair.1 != pair.2) / 2
  ((shared : Rat) / a.length + (shared : Rat) / b.length +
    ((shared - swaps : Nat) : Rat) / shared) / 3

/-- Words alike enough for one to be meant by the other. -/
def isClose (a b : List Char) : Bool := 7 / 10 ≤ score a b

end DelugeAssist.Similarity
