-- Hosts: a name, an address of four octets, or one of eight pieces between brackets. What a name of
-- a web host may look like is told apart from the freer names of other schemes.

import DelugeAssist.Text.Quoted
import DelugeAssist.Url.Label
import DelugeAssist.Url.Percent

namespace DelugeAssist

/-- Why a text is no address. -/
inductive UrlError where
  | relative
  | emptyHost
  | invalidPort
  | invalidIpv4
  | invalidIpv6
  | invalidName
  | invalidNameChar
deriving DecidableEq, Repr

/-- An error in words. -/
def UrlError.message : UrlError → String
  | .relative => "relative URL without a base"
  | .emptyHost => "empty host"
  | .invalidPort => "invalid port number"
  | .invalidIpv4 => "invalid IPv4 address"
  | .invalidIpv6 => "invalid IPv6 address"
  | .invalidName => "invalid international domain name"
  | .invalidNameChar => "invalid domain character"

/-- A host. -/
inductive Host where
  | name (text : Text)
  | ipv4 (value : Nat)
  | ipv6 (pieces : List Nat)
deriving DecidableEq, Repr

namespace Host

/-! ## Four octets -/

/-- The value of digits in a base, if they all are digits of it. -/
def numeral? (base : Nat) (digits : Text) : Option Nat :=
  digits.foldlM
    (fun n c => do
      let d ← Json.hexDigit? c
      if d < base then some (n * base + d) else none)
    0

/-- A number of an address: decimal, hexadecimal after `0x`, or octal after `0`. -/
def ipv4Number? : Text → Option Nat
  | [] => none
  | '0' :: 'x' :: digits => numeral? 16 digits
  | '0' :: 'X' :: digits => numeral? 16 digits
  | '0' :: c :: digits => numeral? 8 (c :: digits)
  | digits => numeral? 10 digits

/-- The parts of a name, without the empty one after a dot at the end. -/
def labels (name : Text) : List Text :=
  let parts := Text.splitAt '.' name
  if parts.getLast? = some [] ∧ 1 < parts.length then parts.dropLast else parts

/-- A name whose last part is a number is meant as an address. -/
def endsInNumber (name : Text) : Bool :=
  match (labels name).getLast? with
  | some part => (part ≠ [] && part.all Char.isDigit) || (ipv4Number? part).isSome
  | none => false

/-- The address of a name. The last number fills what the others leave. -/
def readIpv4 (name : Text) : Except UrlError Host :=
  match (labels name).mapM ipv4Number? with
  | none => .error .invalidIpv4
  | some numbers =>
    match numbers.getLast?, numbers.dropLast with
    | none, _ => .error .invalidIpv4
    | some last, first =>
      if 3 < first.length ∨ first.any (255 < ·) ∨ Nat.pow 256 (4 - first.length) ≤ last then
        .error .invalidIpv4
      else
        let high := first.zipIdx.foldl (fun n (part, i) => n + part * Nat.pow 256 (3 - i)) 0
        .ok (.ipv4 (high + last))

/-- An address with dots between its octets. -/
def renderIpv4 (n : Nat) : Text :=
  let octet (i : Nat) : Text := Nat.toDigits 10 (n / Nat.pow 256 i % 256)
  octet 3 ++ ['.'] ++ octet 2 ++ ['.'] ++ octet 1 ++ ['.'] ++ octet 0

/-! ## Eight pieces -/

/-- A decimal number of one octet, without zeros before it. -/
def octet? (digits : Text) : Option Nat :=
  if digits = [] ∨ 3 < digits.length ∨ (digits.head? = some '0' ∧ 1 < digits.length) then none
  else (numeral? 10 digits).filter (· ≤ 255)

/-- The pieces of a run of groups: four digits at most in each, and four octets in place of the last
two groups where that is allowed. -/
def groups? (dottedEnd : Bool) : List Text → Option (List Nat)
  | [] => some []
  | [group] =>
    if group.contains '.' then
      if dottedEnd then
        match (Text.splitAt '.' group).mapM octet? with
        | some [a, b, c, d] => some [a * 256 + b, c * 256 + d]
        | _ => none
      else none
    else if group = [] ∨ 4 < group.length then none
    else (numeral? 16 group).map ([·])
  | group :: more =>
    if group = [] ∨ 4 < group.length then none
    else do some ((← numeral? 16 group) :: (← groups? dottedEnd more))

/-- What stands before and after the first `::`. -/
def cutAtGap : Text → Option (Text × Text)
  | [] => none
  | ':' :: ':' :: rest => some ([], rest)
  | c :: rest => (cutAtGap rest).map fun (left, right) => (c :: left, right)

/-- The groups of a text; an empty text has none. -/
def groupsOf (text : Text) : List Text := if text = [] then [] else Text.splitAt ':' text

/-- The eight pieces between the brackets. A gap stands for one zero piece or more. -/
def readIpv6 (text : Text) : Except UrlError Host :=
  let pieces? : Option (List Nat) :=
    match cutAtGap text with
    | none => (groups? true (groupsOf text)).filter (·.length = 8)
    | some (left, right) => do
      let first ← groups? false (groupsOf left)
      let last ← groups? true (groupsOf right)
      if first.length + last.length < 8 then
        some (first ++ List.replicate (8 - first.length - last.length) 0 ++ last)
      else none
  match pieces? with
  | some pieces => .ok (.ipv6 pieces)
  | none => .error .invalidIpv6

/-- How many zeros a list begins with. -/
def zerosAhead (pieces : List Nat) : Nat := (pieces.takeWhile (· = 0)).length

/-- The place and length of the longest run of two zeros or more; the first of several. -/
def longestGap? (pieces : List Nat) : Option (Nat × Nat) :=
  (List.range pieces.length).foldl
    (fun best i =>
      let run := zerosAhead (pieces.drop i)
      if (best.map (·.2)).getD 1 < run then some (i, run) else best)
    none

def renderGroups (pieces : List Nat) : Text :=
  [':'].intercalate (pieces.map Text.hexDigits)

/-- Eight pieces between brackets, the longest run of zeros left out. -/
def renderIpv6 (pieces : List Nat) : Text :=
  match longestGap? pieces with
  | none => ['['] ++ renderGroups pieces ++ [']']
  | some (start, length) =>
    ['['] ++ renderGroups (pieces.take start) ++ [':', ':'] ++
      renderGroups (pieces.drop (start + length)) ++ [']']

/-! ## Names -/

/-- What stands between brackets, if the text begins with one. -/
def bracketed? (text : Text) : Option (Except UrlError Text) :=
  match text with
  | '[' :: rest =>
    some (if rest.getLast? = some ']' then .ok rest.dropLast else .error .invalidIpv6)
  | _ => none

/-- The host of a web or file address. -/
def read (text : Text) : Except UrlError Host :=
  match bracketed? text with
  | some inner => do readIpv6 (← inner)
  | none =>
    match Label.asciiName? (Utf8.decodeLossy (Percent.decode text)) with
    | none => .error .invalidName
    | some [] => .error .emptyHost
    | some domain => if endsInNumber domain then readIpv4 domain else .ok (.name domain)

/-- The characters that may not stand in the host of any address. -/
def isHostBreak (c : Char) : Bool :=
  c.toNat = 0 || ['\t', '\n', '\r', ' ', '#', '/', ':', '<', '>', '?', '@', '[', '\\', ']', '^',
    '|'].contains c

/-- The host of an address of another scheme. -/
def readPlain (text : Text) : Except UrlError Host :=
  match bracketed? text with
  | some inner => do readIpv6 (← inner)
  | none =>
    if text.any isHostBreak then .error .invalidNameChar
    else .ok (.name (Percent.encode Percent.isControl text))

/-- A host as it is written. -/
def render : Host → Text
  | .name text => text
  | .ipv4 value => renderIpv4 value
  | .ipv6 pieces => renderIpv6 pieces

end Host

end DelugeAssist
