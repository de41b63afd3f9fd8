-- The generic form of an identifier: a scheme, perhaps an authority, a path, a query and a
-- fragment, each of the characters that it may hold. An identifier that has the form may still be
-- no address.

import DelugeAssist.Record.Mismatch
import DelugeAssist.Url.Host

namespace DelugeAssist

namespace Uri

/-- What is wrong at a place of a text. -/
inductive Fault where
  | unexpectedChar
  | badOctet
  | badIpv6
deriving DecidableEq, Repr

/-- A fault with what is left of the text where it lies. -/
structure Failure where
  fault : Fault
  rest : Text
deriving DecidableEq, Repr

/-- A fault in words, by its place in octets. -/
def Failure.message (whole : Text) (failure : Failure) : String :=
  let index := toString (whole.octets - failure.rest.octets)
  match failure.fault with
  | .unexpectedChar => "unexpected character at index " ++ index
  | .badOctet => "invalid percent-encoded octet at index " ++ index
  | .badIpv6 => "invalid IPv6 address at index " ++ index

/-! ## Characters -/

def isUnreserved (c : Char) : Bool := c.isAlphanum || ['-', '.', '_', '~'].contains c

def isSubDelim (c : Char) : Bool :=
  ['!', '$', '&', '\x27', '(', ')', '*', '+', ',', ';', '='].contains c

def isNameChar (c : Char) : Bool := isUnreserved c || isSubDelim c

def isUserChar (c : Char) : Bool := isNameChar c || c = ':'

def isPathChar (c : Char) : Bool := isUserChar c || c = '@' || c = '/'

def isQueryChar (c : Char) : Bool := isPathChar c || c = '?'

def isHexDigit (c : Char) : Bool := (Json.hexDigit? c).isSome

/-! ## Parts -/

/-- What follows the characters of a kind; a percent sign has to have two digits after it. -/
def skip (isKind : Char → Bool) : Text → Except Failure Text
  | '%' :: a :: b :: rest =>
    if isHexDigit a && isHexDigit b then skip isKind rest
    else .error ⟨.badOctet, '%' :: a :: b :: rest⟩
  | c :: rest =>
    if c = '%' then .error ⟨.badOctet, c :: rest⟩
    else if isKind c then skip isKind rest
    else .ok (c :: rest)
  | [] => .ok []

/-- Fails at what is left, if anything is. -/
def ended : Text → Except Failure Unit
  | [] => .ok ()
  | rest => .error ⟨.unexpectedChar, rest⟩

/-- A path, a query and a fragment up to the end. A path after an authority begins with a slash. -/
def checkPath (afterAuthority : Bool) (text : Text) : Except Failure Unit := do
  let rest ← skip isPathChar text
  if afterAuthority ∧ rest.length < text.length ∧ text.head? ≠ some '/' then
    throw ⟨.unexpectedChar, text⟩
  let rest ← match rest with
    | '?' :: more => skip isQueryChar more
    | rest => .ok rest
  let rest ← match rest with
    | '#' :: more => skip isQueryChar more
    | rest => .ok rest
  ended rest

/-! ## Hosts between brackets -/

/-- A part of an address of eight pieces. -/
inductive Piece where
  /-- Up to four digits, with or without a colon before them. -/
  | digits (colon : Bool)
  /-- Two colons. -/
  | gap
  /-- Digits with a dot after them, which are left to be read. -/
  | dotted (colon : Bool)
  /-- A colon with nothing that belongs to it. -/
  | loneColon
  /-- No part at all, or digits at the very end of the text. -/
  | missing
deriving DecidableEq, Repr

/-- The part that a text begins with, and what follows it. -/
def cutPiece (text : Text) : Piece × Text :=
  let (colon, text) : Bool × Text := match text with
    | ':' :: rest => (true, rest)
    | text => (false, text)
  let digits := (text.take 4).takeWhile isHexDigit
  let rest := text.drop digits.length
  if digits = [] then
    match text, colon with
    | ':' :: rest, true => (.gap, rest)
    | _, true => (.loneColon, text)
    | _, false => (.missing, text)
  else if digits.length < 4 ∧ rest = [] then (.missing, [])
  else if digits.length < 4 ∧ rest.head? = some '.' then (.dotted colon, text)
  else (.digits colon, rest)

/-- An octet in up to three digits, and what follows it. -/
def cutOctet? (text : Text) : Option Text :=
  let digits := (text.take 3).takeWhile Char.isDigit
  if digits.head? = some '0' then some (text.drop 1)
  else if digits ≠ [] ∧ (digits.foldl (fun n c => n * 10 + (c.toNat - '0'.toNat)) 0) ≤ 255 then
    some (text.drop digits.length)
  else none

/-- What follows octets with dots between them. -/
def cutOctets? : (count : Nat) → Text → Option Text
  | 0, text => some text
  | 1, text => cutOctet? text
  | count + 1, text =>
    match cutOctet? text with
    | some ('.' :: rest) => cutOctets? count rest
    | _ => none

/-- What of an address of eight pieces has been read: how many pieces, and before which of them the
gap lies. -/
structure Pieces where
  count : Nat := 0
  gap : Option Nat := none
deriving DecidableEq, Repr

namespace Pieces

/-- Whether a gap is the last part read. -/
def endsInGap (pieces : Pieces) : Bool := pieces.gap = some pieces.count

/-- Whether the pieces make up an address: eight, or fewer with a gap. -/
def isWhole (pieces : Pieces) : Bool :=
  match pieces.gap with
  | none => pieces.count = 8
  | some _ => pieces.count < 8

/-- What follows an address, if that is one. Two more parts than pieces is the most it can have. -/
def skip? : (fuel : Nat) → Pieces → Text → Option (Pieces × Text)
  | 0, pieces, text => some (pieces, text)
  | fuel + 1, pieces, text =>
    if 8 ≤ pieces.count then some (pieces, text)
    else
      match cutPiece text with
      | (.digits colon, rest) =>
        if colon = (pieces.count = 0 || pieces.endsInGap) then none
        else skip? fuel { pieces with count := pieces.count + 1 } rest
      | (.gap, rest) =>
        if pieces.gap.isSome then none
        else skip? fuel { pieces with gap := some pieces.count } rest
      | (.dotted colon, rest) =>
        if 6 < pieces.count ∨ colon = pieces.endsInGap then some (pieces, rest)
        else (cutOctets? 4 rest).map ({ pieces with count := pieces.count + 2 }, ·)
      | (.loneColon, _) => none
      | (.missing, rest) => some (pieces, rest)

end Pieces

/-- What follows a host of a version to come, which begins with a letter. -/
def skipFuture (text : Text) : Except Failure Text :=
  match text with
  | v :: more =>
    if v = 'v' ∨ v = 'V' then
      match more.dropWhile isHexDigit with
      | '.' :: rest =>
        let after := rest.dropWhile isUserChar
        if more.head? = some '.' then .error ⟨.unexpectedChar, more⟩
        else if after.length = rest.length then .error ⟨.unexpectedChar, rest⟩
        else .ok after
      | rest => .error ⟨.unexpectedChar, rest⟩
    else .error ⟨.unexpectedChar, text⟩
  | [] => .error ⟨.unexpectedChar, []⟩

/-- What follows the closing bracket of a host, given what follows the opening one. -/
def skipBracketed (text : Text) : Except Failure Text := do
  let rest ← match Pieces.skip? 10 {} text with
    | none => .error ⟨.badIpv6, text⟩
    | some (pieces, rest) =>
      if pieces = {} ∧ rest.length = text.length then skipFuture text
      else if pieces.isWhole then .ok rest
      else .error ⟨.badIpv6, text⟩
  match rest with
  | ']' :: rest => .ok rest
  | rest => .error ⟨.unexpectedChar, rest⟩

/-- What follows a host and its port. -/
def skipHost (text : Text) : Except Failure Text := do
  let rest ← match text with
    | '[' :: more => skipBracketed more
    | text => skip isNameChar text
  match rest with
  | ':' :: more => .ok (more.dropWhile Char.isDigit)
  | rest => .ok rest

/-- What of a text lies at and after its last colon. -/
def lastColon? (text : Text) : Option Text :=
  match text.reverse.dropWhile (· ≠ ':') with
  | [] => none
  | left => some (text.drop (left.length - 1))

/-- What follows an authority. A host without brackets may have one colon, with digits after it. -/
def skipAuthority (text : Text) : Except Failure Text := do
  let rest ← skip isUserChar text
  match rest with
  | '@' :: more => skipHost more
  | _ =>
    let read := text.take (text.length - rest.length)
    if read = [] then skipHost text
    else
      match lastColon? read with
      | none => return rest
      | some tail =>
        if 1 < read.count ':' then throw ⟨.unexpectedChar, tail ++ rest⟩
        else
          let left := (tail.drop 1).dropWhile Char.isDigit
          if left = [] then return rest else throw ⟨.unexpectedChar, left ++ rest⟩

def isSchemeChar (c : Char) : Bool := c.isAlphanum || c = '+' || c = '-' || c = '.'

/-- Whether a text has the form of an identifier. -/
def check (text : Text) : Except Failure Unit :=
  match text.dropWhile isSchemeChar with
  | ':' :: rest =>
    if (text.head?.map Char.isAlpha).getD false then
      match rest with
      | '/' :: '/' :: rest => do checkPath true (← skipAuthority rest)
      | rest => checkPath false rest
    else .error ⟨.unexpectedChar, text⟩
  | rest => .error ⟨.unexpectedChar, rest⟩

/-- A text that has the form of an identifier. -/
def read (text : String) : Except Mismatch String :=
  match check text.toList with
  | .ok _ => .ok text
  | .error failure => .error (.refused (failure.message text.toList))

end Uri

end DelugeAssist
