-- Texts in composed form: a character and its marks as few characters as possible, the marks in the
-- order of their classes. Texts that look and mean the same have one composed form.

import DelugeAssist.Text.Combining
import DelugeAssist.Text.Composite
import DelugeAssist.Text.Measure

namespace DelugeAssist

namespace Text

/-! ## Apart -/

/-- How often a character that stands for two may begin with another such character. -/
def partsDepth : Nat := 4

/-- A character in its parts. -/
def partsOf : (depth : Nat) → Char → Text
  | 0, c => [c]
  | depth + 1, c =>
    match parts? c with
    | some (first, second) => partsOf depth first ++ [second]
    | none => [c]

/-! ## In order -/

/-- A text with one character more before it. A mark goes behind those of lesser classes. -/
def putAhead (c : Char) : Text → Text
  | [] => [c]
  | d :: rest =>
    if combiningClass d ≠ 0 ∧ combiningClass d < combiningClass c then d :: putAhead c rest
    else c :: d :: rest

/-- A text with its marks in the order of their classes. -/
def ordered (text : Text) : Text := text.foldr putAhead []

/-! ## Together -/

/-- A text after a character that marks may join, given the marks between, in order, which did not
join it. -/
def joinMarks (base : Char) (between : Text) : Text → Text
  | [] => base :: between
  | c :: rest =>
    let isFree := match between.getLast? with
      | none => true
      | some mark => combiningClass mark < combiningClass c
    match if isFree then composite? base c else none with
    | some joined => joinMarks joined between rest
    | none =>
      if combiningClass c = 0 then base :: between ++ joinMarks c [] rest
      else joinMarks base (between ++ [c]) rest

/-- A text with its marks joined to the characters before them. -/
def joined : Text → Text
  | [] => []
  | c :: rest => if combiningClass c = 0 then joinMarks c [] rest else c :: joined rest

/-- The composed form of a text. -/
def composed (text : Text) : Text := joined (ordered (text.flatMap (partsOf partsDepth)))

end Text

end DelugeAssist
