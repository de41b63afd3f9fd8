-- The names of hosts, label by label: which characters count alike, which labels may stand, and how
-- a label beyond ASCII is written.

import DelugeAssist.Text.Composed
import DelugeAssist.Text.Direction
import DelugeAssist.Text.Joining
import DelugeAssist.Url.Fold.Barred
import DelugeAssist.Url.Fold.Shift
import DelugeAssist.Url.Fold.Spelling
import DelugeAssist.Url.Punycode

namespace DelugeAssist

namespace Text

/-- The parts of a text between the occurrences of a character. -/
def splitAt (mark : Char) : Text → List Text
  | [] => [[]]
  | c :: rest =>
    if c = mark then [] :: splitAt mark rest
    else
      match splitAt mark rest with
      | [] => [[c]]
      | part :: more => (c :: part) :: more

end Text

/-- A label: the characters that are meant, and how they are written in ASCII. -/
structure Label where
  meant : Text
  written : Text
deriving DecidableEq, Repr

namespace Label

/-! ## Characters that count alike -/

/-- What a character counts as in a name; none for one that may not stand there. -/
def fold? (c : Char) : Option Text :=
  if isBarred c then none
  else if c.toNat < 0x80 then some [c.toLower]
  else if isDropped c then some []
  else
    match shifted? c with
    | some d => some [d]
    | none => some ((spelled? c).getD [c])

/-- A text as it counts in a name. -/
def normal? (text : Text) : Option Text :=
  (text.mapM fold?).map fun parts => Text.composed parts.flatten

/-! ## Labels that may stand -/

/-- Whether a hint that letters do not join stands between letters that would. -/
def partsLetters (before after : Text) : Bool :=
  let nearest (text : Text) : Option Joining :=
    ((text.map Joining.of).dropWhile (· = .transparent)).head?
  (nearest before = some .after || nearest before = some .both) &&
    (nearest after = some .before || nearest after = some .both)

/-- Whether every hint about joining stands where it matters. `before` holds what comes before the
text, last character first. -/
def hintsFit (before : Text) : Text → Bool
  | [] => true
  | c :: rest =>
    let afterVirama := (before.head?.map combiningClass) = some viramaClass
    let fits :=
      if c.toNat = 0x200C then afterVirama || partsLetters before rest
      else if c.toNat = 0x200D then afterVirama
      else true
    fits && hintsFit (c :: before) rest

/-- Whether characters make a label: no mark comes first, and hints are in place. -/
def fits (meant : Text) : Bool := !((meant.head?.map isMark).getD false) && hintsFit [] meant

/-! ## Directions -/

/-- Whether a character is written from right to left, or makes others be. -/
def runsLeft (c : Char) : Bool :=
  Direction.of c = .rightToLeft || Direction.of c = .arabicDigit

/-- Whether a label reads the same in either surroundings: it begins with a letter, holds letters of
one direction, digits of one kind where it runs from right to left, and ends in a letter or a
digit, marks aside. -/
def directionFits (meant : Text) : Bool :=
  let directions := meant.map Direction.of
  let last := (directions.reverse.dropWhile (· = .mark)).head?
  match directions with
  | [] => true
  | .leftToRight :: rest =>
    rest.all (fun d => d ≠ .rightToLeft && d ≠ .arabicDigit) &&
      (last = some .leftToRight || last = some .digit)
  | .rightToLeft :: rest =>
    rest.all (· ≠ .leftToRight) && last ≠ some .neutral &&
      !(rest.contains .digit && rest.contains .arabicDigit)
  | _ => false

/-! ## Labels as they are written -/

/-- The mark of a label that is written in Punycode. -/
def codedMark : Text := "xn--".toList

/-- The longest code that is read. -/
def codeLimit : Nat := 2000

/-- The longest label that is written in code. -/
def labelLimit : Nat := 1000

/-- The label that a code stands for. The code is the only one that the label has. -/
def ofCode? (code : Text) : Option Label :=
  if code = [] ∨ code.getLast? = some '-' ∨ codeLimit < code.length then none
  else do
    let meant ← Punycode.decode? code
    if !meant.contains '.' ∧ normal? meant = some meant ∧ fits meant then
      some ⟨meant, codedMark ++ code⟩
    else none

/-- The label of a text in normal form. -/
def ofNormal? (text : Text) : Option Label :=
  let isPlain := text.all fun c => c.toNat < 0x80
  if codedMark.isPrefixOf text then
    if isPlain then ofCode? (text.drop codedMark.length) else none
  else if !fits text then none
  else if isPlain then some ⟨text, text⟩
  else if text.length ≤ labelLimit then some ⟨text, codedMark ++ Punycode.encode text⟩
  else none

/-- The labels of a name. If one runs from right to left, all have to keep to their direction. -/
def ofName? (name : Text) : Option (List Label) := do
  let labels ← (Text.splitAt '.' (← normal? name)).mapM ofNormal?
  if labels.any (·.meant.any runsLeft) ∧ !labels.all (directionFits ·.meant) then none
  else some labels

/-- A name in ASCII. -/
def asciiName? (name : Text) : Option Text :=
  (ofName? name).map fun labels => ['.'].intercalate (labels.map (·.written))

end Label

end DelugeAssist
