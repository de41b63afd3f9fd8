-- The four kinds of TOML strings: on one line or over several, with escapes or as they stand.

import DelugeAssist.Toml.Scalar

namespace DelugeAssist

namespace Toml

/-- The characters that a comment or a string may hold: a tab, and all but the controls. -/
def isTextChar (c : Char) : Bool := c = '\t' || (0x20 ≤ c.toNat && c.toNat ≠ 0x7F)

def isBlank (c : Char) : Bool := c = ' ' || c = '\t'

/-- What follows a line break, where one stands. -/
def afterBreak? : Text → Option Text
  | '\n' :: rest => some rest
  | '\r' :: '\n' :: rest => some rest
  | _ => none

/-- What a backslash and a letter stand for. -/
def escape? : Char → Option Char
  | 'b' => some (Char.ofNat 8)
  | 't' => some '\t'
  | 'n' => some '\n'
  | 'f' => some (Char.ofNat 12)
  | 'r' => some '\r'
  | 'e' => some (Char.ofNat 27)
  | '"' => some '"'
  | '\\' => some '\\'
  | _ => none

/-- The character of a hexadecimal number of exactly `count` digits. -/
def charOfHex? (count : Nat) (text : Text) : Option (Char × Text) :=
  let digits := text.take count
  let n := valueOf 16 digits
  if digits.length = count ∧ digits.all isHexDigit ∧ n.isValidChar then
    some (Char.ofNat n, text.drop count)
  else none

/-- The character of an escape, after its backslash. -/
def readEscape? : Text → Option (Char × Text)
  | 'x' :: rest => charOfHex? 2 rest
  | 'u' :: rest => charOfHex? 4 rest
  | 'U' :: rest => charOfHex? 8 rest
  | c :: rest => (escape? c).map fun c => (c, rest)
  | [] => none

/-- What follows the blanks and line breaks after a backslash at the end of a line. -/
def skipToText : (fuel : Nat) → Text → Text
  | 0, text => text
  | fuel + 1, text =>
    match text with
    | ' ' :: rest => skipToText fuel rest
    | '\t' :: rest => skipToText fuel rest
    | text =>
      match afterBreak? text with
      | some rest => skipToText fuel rest
      | none => text

/-- What follows a backslash that ends its line, blanks before the break allowed. -/
def afterLineEnd? (text : Text) : Option Text :=
  (afterBreak? (text.dropWhile isBlank)).map fun rest => skipToText rest.length rest

/-- The rest of a one-line string with escapes. -/
def basicRest? : (fuel : Nat) → Text → Option (Text × Text)
  | 0, _ => none
  | _ + 1, [] => none
  | _ + 1, '"' :: rest => some ([], rest)
  | fuel + 1, '\\' :: rest => do
    let (c, rest) ← readEscape? rest
    let (text, rest) ← basicRest? fuel rest
    some (c :: text, rest)
  | fuel + 1, c :: rest =>
    if isTextChar c then do
      let (text, rest) ← basicRest? fuel rest
      some (c :: text, rest)
    else none

/-- The rest of a one-line string without escapes. -/
def literalRest? : Text → Option (Text × Text)
  | [] => none
  | '\x27' :: rest => some ([], rest)
  | c :: rest =>
    if isTextChar c then do
      let (text, rest) ← literalRest? rest
      some (c :: text, rest)
    else none

/-- Where a run of at least three quotes closes a string of several lines: the last three close it,
and up to two before them belong to it. -/
def closing? (quote : Char) (text : Text) : Option (Text × Text) :=
  let count := (text.takeWhile (· = quote)).length
  if count < 3 then none
  else
    let count := min count 5
    some (List.replicate (count - 3) quote, text.drop count)

/-- The rest of a string of several lines, with escapes if its quote is the double one. -/
def longRest? (quote : Char) : (fuel : Nat) → Text → Option (Text × Text)
  | 0, _ => none
  | fuel + 1, text =>
    match closing? quote text with
    | some result => some result
    | none =>
      match text with
      | [] => none
      | '\r' :: '\n' :: rest => do
        let (text, rest) ← longRest? quote fuel rest
        some ('\r' :: '\n' :: text, rest)
      | '\\' :: rest =>
        if quote = '"' then
          match afterLineEnd? rest with
          | some rest => longRest? quote fuel rest
          | none => do
            let (c, rest) ← readEscape? rest
            let (text, rest) ← longRest? quote fuel rest
            some (c :: text, rest)
        else do
          let (text, rest) ← longRest? quote fuel rest
          some ('\\' :: text, rest)
      | c :: rest =>
        if isTextChar c || c = '\n' then do
          let (text, rest) ← longRest? quote fuel rest
          some (c :: text, rest)
        else none

/-- A text without the line break that it begins with, if it does. -/
def skipBreak (text : Text) : Text := (afterBreak? text).getD text

/-- What was read, as a string. -/
def asString (read : Option (Text × Text)) : Option (String × Text) :=
  read.map fun (text, rest) => (String.ofList text, rest)

/-- A string on one line at the beginning of a text. -/
def readShortQuoted? : Text → Option (String × Text)
  | '"' :: rest => asString (basicRest? (rest.length + 1) rest)
  | '\x27' :: rest => asString (literalRest? rest)
  | _ => none

/-- A string at the beginning of a text. -/
def readQuoted? : Text → Option (String × Text)
  | '"' :: '"' :: '"' :: rest => asString (longRest? '"' (rest.length + 1) (skipBreak rest))
  | '\x27' :: '\x27' :: '\x27' :: rest =>
    asString (longRest? '\x27' (rest.length + 1) (skipBreak rest))
  | text => readShortQuoted? text

end Toml

end DelugeAssist
