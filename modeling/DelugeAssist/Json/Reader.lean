-- JSON text read as a value.

import DelugeAssist.Json.Value
import DelugeAssist.Number.Width

namespace DelugeAssist

namespace Json

def isBlank (c : Char) : Bool := c = ' ' || c = '\t' || c = '\n' || c = '\r'

def skipBlanks (text : Text) : Text := text.dropWhile isBlank

def digitOf (c : Char) : Nat := c.toNat - '0'.toNat

def hexDigit? (c : Char) : Option Nat :=
  if c.isDigit then some (c.toNat - '0'.toNat)
  else if 'a' ≤ c ∧ c ≤ 'f' then some (c.toNat - 'a'.toNat + 10)
  else if 'A' ≤ c ∧ c ≤ 'F' then some (c.toNat - 'A'.toNat + 10)
  else none

/-! ## Strings -/

/-- What a backslash and one more character stand for. -/
def escaped? : Char → Option Char
  | '"' => some '"'
  | '\\' => some '\\'
  | '/' => some '/'
  | 'b' => some (Char.ofNat 8)
  | 'f' => some (Char.ofNat 12)
  | 'n' => some '\n'
  | 'r' => some '\r'
  | 't' => some '\t'
  | _ => none

/-- The rest of a string after its opening quote, with what follows the closing one. A first half
of a pair of units waits in `high` for its second half. -/
def stringRest (high : Option Nat) : Text → Option (Text × Text)
  | [] => none
  | '"' :: rest => if high.isNone then some ([], rest) else none
  | '\\' :: 'u' :: a :: b :: c :: d :: rest => do
    let unit := (← hexDigit? a) * 4096 + (← hexDigit? b) * 256 + (← hexDigit? c) * 16 +
      (← hexDigit? d)
    match high with
    | some first =>
      if 0xDC00 ≤ unit ∧ unit ≤ 0xDFFF then
        let (text, rest) ← stringRest none rest
        some (Char.ofNat (0x10000 + (first - 0xD800) * 0x400 + (unit - 0xDC00)) :: text, rest)
      else none
    | none =>
      if 0xD800 ≤ unit ∧ unit ≤ 0xDBFF then stringRest (some unit) rest
      else if 0xDC00 ≤ unit ∧ unit ≤ 0xDFFF then none
      else
        let (text, rest) ← stringRest none rest
        some (Char.ofNat unit :: text, rest)
  | '\\' :: c :: rest => do
    let c ← escaped? c
    if high.isSome then none
    else
      let (text, rest) ← stringRest none rest
      some (c :: text, rest)
  | c :: rest =>
    if c.toNat < 0x20 || c = '\\' || high.isSome then none
    else do
      let (text, rest) ← stringRest none rest
      some (c :: text, rest)

/-! ## Numbers -/

/-- The digits taken on to `significand` as long as it stays within 64 bits, and the rest. -/
def absorb (significand : Nat) : List Char → Nat × List Char
  | [] => (significand, [])
  | c :: rest =>
    if Width.greatest 64 < significand * 10 + digitOf c then (significand, c :: rest)
    else absorb (significand * 10 + digitOf c) rest

/-- A significand of 64 bits times a power of ten, rounded after each step: to double precision
first, then after each scaling by at most `10 ^ 308`. There is none for a number past the greatest.
-/
def scale? (negative : Bool) (size : Binary64) (exponent : Int) : (fuel : Nat) → Option Binary64
  | 0 => some (Binary64.zero negative)
  | fuel + 1 =>
    let step := Binary64.ofDecimal negative 1
    if 0 ≤ exponent then
      if size = Binary64.zero negative then some size
      else if 308 < exponent then none
      else
        match Binary64.times negative size (step exponent) with
        | .infinite _ => none
        | product => some product
    else if -308 ≤ exponent then some (Binary64.dividedBy negative size (step (-exponent)))
    else if size = Binary64.zero negative then some size
    else scale? negative (Binary64.dividedBy negative size (step 308)) (exponent + 308) fuel

/-- The number of a sign, whole digits, fraction digits and an exponent. -/
def number? (negative : Bool) (whole fraction : List Char) (exponent : Option Int) : Option Json :=
  let (significand, dropped) := absorb 0 whole
  if dropped = [] ∧ fraction = [] ∧ exponent = none then
    if negative then
      if significand = 0 then some (.float (Binary64.zero true))
      else if significand ≤ Width.values 63 then some (.int (-(significand : Int)))
      else some (.float (Binary64.ofRatio true significand 1))
    else some (.int significand)
  else
    let (significand, unused) :=
      if dropped = [] then absorb significand fraction else (significand, fraction)
    let power : Int := dropped.length - (fraction.length - unused.length : Nat)
    let size := Binary64.ofRatio negative significand 1
    (scale? negative size (power + exponent.getD 0) 8).map .float

/-- A number at the beginning of a text. -/
def readNumber (text : Text) : Option (Json × Text) := do
  let (negative, text) := match text with
    | '-' :: rest => (true, rest)
    | _ => (false, text)
  let whole := text.takeWhile Char.isDigit
  let text := text.dropWhile Char.isDigit
  if whole = [] ∨ (whole.head? = some '0' ∧ 1 < whole.length) then none
  else
    let (fraction, text) ← match text with
      | '.' :: rest =>
        let digits := rest.takeWhile Char.isDigit
        if digits = [] then none else some (digits, rest.dropWhile Char.isDigit)
      | _ => some ([], text)
    let (exponent, text) ← match text with
      | e :: rest =>
        if e = 'e' ∨ e = 'E' then
          let (sign, rest) : Int × Text := match rest with
            | '-' :: rest => (-1, rest)
            | '+' :: rest => (1, rest)
            | _ => (1, rest)
          let digits := rest.takeWhile Char.isDigit
          if digits = [] then none
          else
            let size := digits.foldl (fun n c => n * 10 + digitOf c) 0
            some (some (sign * size), rest.dropWhile Char.isDigit)
        else some (none, text)
      | [] => some (none, [])
    let number ← number? negative whole fraction exponent
    some (number, text)

/-! ## Values -/

/-- What follows a word that a text begins with. -/
def afterWord? (word : String) (text : Text) : Option Text :=
  if word.toList.isPrefixOf text then some (text.drop word.length) else none

mutual

/-- A value at the beginning of a text, nested at most `fuel` deep in lists and tails. -/
def readValue : (fuel : Nat) → Text → Option (Json × Text)
  | 0, _ => none
  | fuel + 1, text =>
    match skipBlanks text with
    | '"' :: rest => do
      let (s, rest) ← stringRest none rest
      some (.str (String.ofList s), rest)
    | '[' :: rest =>
      match skipBlanks rest with
      | ']' :: rest => some (.arr [], rest)
      | _ => do
        let (items, rest) ← readItems fuel rest
        some (.arr items, rest)
    | '\x7b' :: rest =>
      match skipBlanks rest with
      | '\x7d' :: rest => some (.obj [], rest)
      | _ => do
        let (members, rest) ← readMembers fuel rest
        some (object members, rest)
    | 'n' :: rest => do some (.null, ← afterWord? "ull" rest)
    | 't' :: rest => do some (.bool true, ← afterWord? "rue" rest)
    | 'f' :: rest => do some (.bool false, ← afterWord? "alse" rest)
    | text => readNumber text

/-- Items up to a closing bracket. -/
def readItems : (fuel : Nat) → Text → Option (List Json × Text)
  | 0, _ => none
  | fuel + 1, text => do
    let (item, rest) ← readValue fuel text
    match skipBlanks rest with
    | ',' :: rest =>
      let (items, rest) ← readItems fuel rest
      some (item :: items, rest)
    | ']' :: rest => some ([item], rest)
    | _ => none

/-- Members up to a closing brace. -/
def readMembers : (fuel : Nat) → Text → Option (List (String × Json) × Text)
  | 0, _ => none
  | fuel + 1, text => do
    let '"' :: rest := skipBlanks text | none
    let (key, rest) ← stringRest none rest
    let ':' :: rest := skipBlanks rest | none
    let (value, rest) ← readValue fuel rest
    match skipBlanks rest with
    | ',' :: rest =>
      let (members, rest) ← readMembers fuel rest
      some ((String.ofList key, value) :: members, rest)
    | '\x7d' :: rest => some ([(String.ofList key, value)], rest)
    | _ => none

end

/-- The value that a text spells. -/
def parse? (text : Text) : Option Json := do
  let (value, rest) ← readValue (text.length + 1) text
  if skipBlanks rest = [] then some value else none

end Json

end DelugeAssist
