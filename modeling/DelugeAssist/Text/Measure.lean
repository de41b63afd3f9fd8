-- A text is the list of its characters. It is measured in octets, as a file holds it, and in
-- UTF-16 units, as an editor counts columns; a cut in the one is carried over to the other here.

namespace DelugeAssist

/-- A text, character by character. -/
abbrev Text := List Char

/-- How many UTF-16 units a character takes: two above the first plane. -/
def unitsOf (c : Char) : Nat := if c.toNat ≤ 0xFFFF then 1 else 2

namespace Text

/-- The length in octets. -/
def octets : Text → Nat
  | [] => 0
  | c :: rest => c.utf8Size + octets rest

/-- The length in UTF-16 units. -/
def units : Text → Nat
  | [] => 0
  | c :: rest => unitsOf c + units rest

/-! ## Cutting at an octet -/

/-- The characters that lie wholly in the first `n` octets. -/
def takeOctets : Nat → Text → Text
  | _, [] => []
  | n, c :: rest => if c.utf8Size ≤ n then c :: takeOctets (n - c.utf8Size) rest else []

/-- What `takeOctets` leaves. -/
def dropOctets : Nat → Text → Text
  | _, [] => []
  | n, c :: rest => if c.utf8Size ≤ n then dropOctets (n - c.utf8Size) rest else c :: rest

/-- The text from octet `start` to octet `stop`. -/
def slice (start stop : Nat) (text : Text) : Text :=
  (text.takeOctets stop).dropOctets start

/-- The text with the octets from `start` to `stop` replaced. -/
def splice (text : Text) (start stop : Nat) (inserted : Text) : Text :=
  text.takeOctets start ++ inserted ++ text.dropOctets stop

/-- An octet offset between two characters, or at an end. -/
def isBoundary : Text → Nat → Bool
  | _, 0 => true
  | [], _ + 1 => false
  | c :: rest, n + 1 => decide (c.utf8Size ≤ n + 1) && isBoundary rest (n + 1 - c.utf8Size)

theorem takeOctets_append_dropOctets (n : Nat) (text : Text) :
    text.takeOctets n ++ text.dropOctets n = text := by
  induction text generalizing n with
  | nil => rfl
  | cons c rest ih =>
    unfold takeOctets dropOctets
    split
    · simp [ih]
    · rfl

theorem isBoundary_iff {text : Text} {n : Nat} :
    text.isBoundary n = true ↔ (text.takeOctets n).octets = n := by
  induction text generalizing n with
  | nil => cases n <;> simp [isBoundary, takeOctets, octets]
  | cons c rest ih =>
    have hc := c.utf8Size_pos
    cases n with
    | zero => simp [isBoundary, takeOctets, Nat.ne_of_gt hc, octets]
    | succ n =>
      unfold isBoundary takeOctets
      by_cases h : c.utf8Size ≤ n + 1
      · simp only [h, decide_true, Bool.true_and, if_true, octets, ih]
        omega
      · simp [h, octets]

/-! ## Columns of a line -/

/-- The octet offset of a column (`convert_utf16_to_byte_in_line`). A column inside a pair of units
stands for the boundary after the pair; past the last character only the very end of the line has an
offset. -/
def columnToOctet? : Text → Nat → Option Nat
  | _, 0 => some 0
  | [], _ + 1 => none
  | [c], n + 1 => if unitsOf c = n + 1 then some c.utf8Size else none
  | c :: d :: rest, n + 1 =>
    (columnToOctet? (d :: rest) (n + 1 - unitsOf c)).map (c.utf8Size + ·)

/-- The column of an octet offset (`convert_byte_to_utf16_in_line`); none inside a character or past
the end. -/
def octetToColumn? (line : Text) (n : Nat) : Option Nat :=
  if line.isBoundary n then some (line.takeOctets n).units else none

/-- The octet offset of a column, held at the end of the line. -/
def columnOctet (line : Text) (column : Nat) : Nat :=
  (line.columnToOctet? column).getD line.octets

end Text

end DelugeAssist
