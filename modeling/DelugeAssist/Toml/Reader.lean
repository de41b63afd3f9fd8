-- TOML text read as a document: keys, values and lines.

import DelugeAssist.Toml.Quotation
import DelugeAssist.Toml.Tree

namespace DelugeAssist

namespace Toml

def skipBlanks (text : Text) : Text := text.dropWhile isBlank

/-! ## Keys -/

def isKeyChar (c : Char) : Bool := c.isAlphanum || c = '_' || c = '-'

/-- One key, quoted or bare. -/
def readKey? (text : Text) : Option (Key × Text) :=
  match readShortQuoted? text with
  | some (name, rest) => some (⟨name, .between text rest⟩, rest)
  | none =>
    let name := text.takeWhile isKeyChar
    let rest := text.dropWhile isKeyChar
    if name = [] then none else some (⟨String.ofList name, .between text rest⟩, rest)

/-- How deep values may be nested, and how many keys a path may have. -/
def depthLimit : Nat := 80

/-- Keys with dots between them, and blanks around the dots; no more than `fuel` of them. -/
def readPathUpTo? : (fuel : Nat) → Text → Option (List Key × Text)
  | 0, _ => none
  | fuel + 1, text => do
    let (key, rest) ← readKey? (skipBlanks text)
    match skipBlanks rest with
    | '.' :: more =>
      let (path, rest) ← readPathUpTo? fuel more
      some (key :: path, rest)
    | rest => some ([key], rest)

/-- A path of keys at the beginning of a text. -/
def readPath? (text : Text) : Option (List Key × Text) := readPathUpTo? depthLimit text

/-! ## Values -/

/-- What follows a comment, where one stands. -/
def afterComment : Text → Text
  | '#' :: rest => rest.dropWhile isTextChar
  | text => text

/-- What follows blanks, line breaks and comments. -/
def skipLines : (fuel : Nat) → Text → Text
  | 0, text => text
  | fuel + 1, text =>
    let rest := afterComment (skipBlanks text)
    match afterBreak? rest with
    | some rest => skipLines fuel rest
    | none => rest

mutual

/-- A value at the beginning of a text, with the place of it. `room` is how deep it may be nested.
-/
def readValue? : (fuel room : Nat) → Text → Option (Node × Span × Text)
  | 0, _, _ => none
  | fuel + 1, room, text =>
    match text, room with
    | '[' :: _, 0 => none
    | '\x7b' :: _, 0 => none
    | '[' :: rest, room + 1 => do
      let (items, rest) ← readItems? fuel room rest
      some (.array items, .between text rest, rest)
    | '\x7b' :: rest, room + 1 => do
      let (settings, rest) ← readSettings? fuel room rest
      let entries ← buildInline? settings
      some (.table .inline entries, .between text rest, rest)
    | text, _ =>
      match readQuoted? text with
      | some (value, rest) => some (.scalar (.str value), .between text rest, rest)
      | none => do
        let (value, rest) ← readBare? text
        some (.scalar value, .between text rest, rest)

/-- Items up to the closing bracket; a comma may follow the last. -/
def readItems? : (fuel room : Nat) → Text → Option (List Node × Text)
  | 0, _, _ => none
  | fuel + 1, room, text =>
    match skipLines text.length text with
    | ']' :: rest => some ([], rest)
    | text => do
      let (item, _, rest) ← readValue? fuel room text
      match skipLines rest.length rest with
      | ',' :: rest =>
        let (items, rest) ← readItems? fuel room rest
        some (item :: items, rest)
      | ']' :: rest => some ([item], rest)
      | _ => none

/-- Settings up to the closing brace; a comma may follow the last. -/
def readSettings? : (fuel room : Nat) → Text → Option (List (List Key × Span × Node) × Text)
  | 0, _, _ => none
  | fuel + 1, room, text =>
    match skipLines text.length text with
    | '\x7d' :: rest => some ([], rest)
    | text => do
      let (path, rest) ← readPath? text
      let '=' :: rest := rest | none
      let (node, span, rest) ← readValue? fuel room (skipBlanks rest)
      match skipLines rest.length rest with
      | ',' :: rest =>
        let (settings, rest) ← readSettings? fuel room rest
        some ((path, span, node) :: settings, rest)
      | '\x7d' :: rest => some ([(path, span, node)], rest)
      | _ => none

end

/-! ## Lines -/

/-- A header or a setting at the beginning of a text. -/
def readStatement? (text : Text) : Option (Statement × Text) :=
  match text with
  | '[' :: '[' :: rest => do
    let (path, rest) ← readPath? rest
    let ']' :: ']' :: rest := rest | none
    some (.nextHeader path (.between text rest), rest)
  | '[' :: rest => do
    let (path, rest) ← readPath? rest
    let ']' :: rest := rest | none
    some (.header path (.between text rest), rest)
  | _ => do
    let (path, rest) ← readPath? text
    let '=' :: rest := rest | none
    let (node, span, rest) ← readValue? (rest.length + 1) depthLimit (skipBlanks rest)
    some (.setting path span node, rest)

/-- What follows the end of a line, comments included; the end of the text ends a line too. -/
def afterLine? (text : Text) : Option Text :=
  match afterComment (skipBlanks text) with
  | [] => some []
  | rest => afterBreak? rest

/-- The lines of a document. -/
def readStatements? : (fuel : Nat) → Text → Option (List Statement)
  | 0, _ => none
  | fuel + 1, text =>
    match skipLines text.length text with
    | [] => some []
    | text => do
      let (statement, rest) ← readStatement? text
      let rest ← afterLine? rest
      let statements ← readStatements? fuel rest
      some (statement :: statements)

/-- The entries of a document. A byte order mark may stand before it. -/
def parse? (text : Text) : Option Entries := do
  let body := match text with
    | '\uFEFF' :: rest => rest
    | _ => text
  build? (← readStatements? (body.length + 1) body)

end Toml

end DelugeAssist
