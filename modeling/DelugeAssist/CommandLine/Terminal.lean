-- Control characters and control sequences of a terminal, and a text without them. Blanks and line
-- breaks stay, and break off a sequence that they stand in.

import DelugeAssist.Text.Utf8

namespace DelugeAssist.CommandLine

/-- Where in a control sequence a character stands. -/
inductive Control where
  /-- In no sequence. -/
  | none
  /-- After the escape character. -/
  | escape
  /-- After the escape character and a mark that leads on. -/
  | escapeMark
  /-- In a sequence with parameters, which a letter or another late character ends. -/
  | parameters
  /-- At the beginning of a device command. -/
  | device
  /-- In the parameters of a device command. -/
  | deviceParameters
  /-- After a mark that leads on in a device command. -/
  | deviceMark
  /-- In the text that a command carries. -/
  | carried
  /-- In the title of a window, or another setting of it. -/
  | title
deriving DecidableEq, Repr

namespace Control

def isBetween (first last : Nat) (c : Char) : Bool := first ≤ c.toNat && c.toNat ≤ last

/-- A mark that leads on. -/
def isMark (c : Char) : Bool := isBetween 0x20 0x2F c

/-- A character that ends a sequence. -/
def isFinal (c : Char) : Bool := isBetween 0x40 0x7E c

/-- Whether the octets of a character hold the end of a carried text. -/
def endsCarried (c : Char) : Bool := (Utf8.encodeChar c).contains 0x9C

/-- The place after a character of a sequence. -/
def next (place : Control) (c : Char) : Control :=
  if c.toNat = 0x1B then escape
  else if c.toNat = 0x18 ∨ c.toNat = 0x1A then none
  else
    match place with
    | none => none
    | escape =>
      if isMark c then escapeMark
      else if c = '[' then parameters
      else if c = ']' then title
      else if c = 'P' then device
      else if c = 'X' ∨ c = '^' ∨ c = '_' then carried
      else if isBetween 0x30 0x7E c then none
      else escape
    | escapeMark => if isBetween 0x30 0x7E c then none else escapeMark
    | parameters => if isFinal c then none else parameters
    | device =>
      if isFinal c then carried
      else if isMark c then deviceMark
      else if isBetween 0x30 0x3F c then deviceParameters
      else device
    | deviceParameters =>
      if isFinal c ∨ isBetween 0x3C 0x3F c then carried
      else if isMark c then deviceMark
      else deviceParameters
    | deviceMark => if isBetween 0x30 0x7E c then carried else deviceMark
    | carried => if endsCarried c then none else carried
    | title => if c.toNat = 0x07 then none else title

/-- Whether a blank or a line break shows where it stands. -/
def showsBlanks : Control → Bool
  | none => true
  | escape => true
  | escapeMark => true
  | parameters => true
  | _ => false

/-- A blank that counts as a control character. -/
def isBlankControl (c : Char) : Bool := ['\t', '\n', '\r', '\x0c'].contains c

/-- The characters of a text that show. -/
def strip : Control → Text → Text
  | _, [] => []
  | place, c :: rest =>
    if isBlankControl c then
      if place.showsBlanks then c :: strip none rest else strip place rest
    else if place = none ∧ 0x20 ≤ c.toNat ∧ c.toNat ≠ 0x7F then c :: strip none rest
    else strip (place.next c) rest

end Control

/-- A text without control characters and control sequences. -/
def shown (text : String) : String := String.ofList (Control.strip .none text.toList)

end DelugeAssist.CommandLine
