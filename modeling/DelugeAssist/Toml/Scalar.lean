-- The bare values of TOML: truth values, numbers, dates and times. A bare value is the longest run
-- of the characters that such values are made of, and the whole run has to be one.

import DelugeAssist.Number.Width
import DelugeAssist.Toml.Value

namespace DelugeAssist

namespace Toml

/-- The characters of a bare value. -/
def isBareChar (c : Char) : Bool :=
  c.isAlphanum || c = '_' || c = '+' || c = '-' || c = '.' || c = ':'

/-! ## Whole numbers -/

/-- Digits with an underscore allowed between any two of them. -/
def digitsOf? (isDigit : Char → Bool) : Text → Option Text
  | [] => none
  | [c] => if isDigit c then some [c] else none
  | c :: '_' :: d :: rest =>
    if isDigit c then (digitsOf? isDigit (d :: rest)).map (c :: ·) else none
  | c :: d :: rest =>
    if isDigit c then (digitsOf? isDigit (d :: rest)).map (c :: ·) else none

def digitValue (c : Char) : Nat :=
  if c.isDigit then c.toNat - '0'.toNat
  else if c.isLower then c.toNat - 'a'.toNat + 10
  else c.toNat - 'A'.toNat + 10

/-- The number that digits spell in a base. -/
def valueOf (base : Nat) (digits : Text) : Nat :=
  digits.foldl (fun n c => n * base + digitValue c) 0

def isHexDigit (c : Char) : Bool := c.isDigit || ('a' ≤ c && c ≤ 'f') || ('A' ≤ c && c ≤ 'F')

def isOctalDigit (c : Char) : Bool := '0' ≤ c && c ≤ '7'

def isBinaryDigit (c : Char) : Bool := c = '0' || c = '1'

/-- A sign at the beginning, and whether it is a minus. -/
def signed : Text → Bool × Text
  | '-' :: rest => (true, rest)
  | '+' :: rest => (false, rest)
  | text => (false, text)

/-- Decimal digits that do not begin with a zero, unless it is the only one. -/
def wholeDigits? (text : Text) : Option Text := do
  let digits ← digitsOf? Char.isDigit text
  if digits.head? = some '0' ∧ 1 < digits.length then none else some digits

def readWhole? : Text → Option Int
  | '0' :: 'x' :: rest => (digitsOf? isHexDigit rest).map fun digits => (valueOf 16 digits : Int)
  | '0' :: 'o' :: rest => (digitsOf? isOctalDigit rest).map fun digits => (valueOf 8 digits : Int)
  | '0' :: 'b' :: rest => (digitsOf? isBinaryDigit rest).map fun digits => (valueOf 2 digits : Int)
  | text => do
    let (negative, rest) := signed text
    let size : Int := valueOf 10 (← wholeDigits? rest)
    some (if negative then -size else size)

/-! ## Numbers with a fraction or an exponent -/

/-- The exponent after its letter. -/
def exponentOf? (text : Text) : Option Int := do
  let (negative, rest) := signed text
  let size : Int := valueOf 10 (← digitsOf? Char.isDigit rest)
  some (if negative then -size else size)

/-- A text up to the first character of a kind, and from there on. -/
def cutBefore (stop : Char → Bool) (text : Text) : Text × Text :=
  (text.takeWhile (!stop ·), text.dropWhile (!stop ·))

/-- Powers of ten beyond this size decide a number of double precision whatever its digits. -/
def exponentBound (digits : Nat) : Int := 400 + digits

/-- A number of double precision, from a sign, digits and a power of ten, if it is not past the
greatest. -/
def floatOf? (negative : Bool) (digits : Text) (power : Int) : Option Scalar :=
  let bound := exponentBound digits.length
  match Binary64.ofDecimal negative (valueOf 10 digits) (max (-bound) (min bound power)) with
  | .infinite _ => none
  | value => some (.float value)

def readFloat? (text : Text) : Option Scalar := do
  let (negative, rest) := signed text
  if rest = "inf".toList then some (.float (.infinite negative))
  else if rest = "nan".toList then some (.float .notANumber)
  else
    let (mantissa, exponent) := cutBefore (fun c => c = 'e' || c = 'E') rest
    let (whole, fraction) := cutBefore (· = '.') mantissa
    if fraction = [] ∧ exponent = [] then none
    else
      let whole ← wholeDigits? whole
      let fraction ← match fraction with
        | [] => some []
        | _ :: digits => digitsOf? Char.isDigit digits
      let exponent ← match exponent with
        | [] => some 0
        | _ :: rest => exponentOf? rest
      floatOf? negative (whole ++ fraction) (exponent - fraction.length)

/-! ## Dates and times -/

/-- Exactly `count` digits, and what follows them. -/
def takeNumber? (count : Nat) (text : Text) : Option (Nat × Text) :=
  let digits := text.take count
  if digits.length = count ∧ digits.all Char.isDigit then some (valueOf 10 digits, text.drop count)
  else none

def isLeapYear (year : Nat) : Bool := year % 4 = 0 && (year % 100 ≠ 0 || year % 400 = 0)

def daysIn (year month : Nat) : Nat :=
  if month = 2 then (if isLeapYear year then 29 else 28)
  else if [4, 6, 9, 11].contains month then 30
  else 31

/-- What follows a date. -/
def afterDate? (text : Text) : Option Text := do
  let (year, rest) ← takeNumber? 4 text
  let '-' :: rest := rest | none
  let (month, rest) ← takeNumber? 2 rest
  let '-' :: rest := rest | none
  let (day, rest) ← takeNumber? 2 rest
  if 1 ≤ month ∧ month ≤ 12 ∧ 1 ≤ day ∧ day ≤ daysIn year month then some rest else none

/-- What follows a time of day. The seconds, and a fraction of them, may be left out. -/
def afterTime? (text : Text) : Option Text := do
  let (hour, rest) ← takeNumber? 2 text
  let ':' :: rest := rest | none
  let (minute, rest) ← takeNumber? 2 rest
  if 23 < hour ∨ 59 < minute then none
  else
    match rest with
    | ':' :: rest =>
      let (second, rest) ← takeNumber? 2 rest
      if 60 < second then none
      else
        match rest with
        | '.' :: rest =>
          let digits := rest.takeWhile Char.isDigit
          if digits = [] then none else some (rest.dropWhile Char.isDigit)
        | _ => some rest
    | _ => some rest

/-- Whether a text is nothing, or a distance from universal time. -/
def isOffset : Text → Bool
  | [] => true
  | ['Z'] => true
  | ['z'] => true
  | c :: rest =>
    (c = '+' || c = '-') &&
      match takeNumber? 2 rest with
      | some (hour, ':' :: rest) =>
        match takeNumber? 2 rest with
        | some (minute, []) => decide (hour ≤ 23) && decide (minute ≤ 59)
        | _ => false
      | _ => false

/-- Whether a run of characters is a date, a time, or both. -/
def isDatetime (text : Text) : Bool :=
  match afterDate? text with
  | some [] => true
  | some (c :: rest) =>
    (c = 'T' || c = 't' || c = ' ') &&
      match afterTime? rest with
      | some rest => isOffset rest
      | none => false
  | none =>
    match afterTime? text with
    | some [] => true
    | _ => false

/-! ## Any bare value -/

/-- The value of a run of characters. A whole number has to fit in 64 bits with its sign. -/
def scalarOf? (run : Text) : Option Scalar :=
  if run = "true".toList then some (.bool true)
  else if run = "false".toList then some (.bool false)
  else if isDatetime run then some .datetime
  else
    match readWhole? run with
    | some value => if Width.holdsSigned 64 value then some (.int value) else none
    | none => readFloat? run

/-- A bare value at the beginning of a text. A blank may stand between a date and a time. -/
def readBare? (text : Text) : Option (Scalar × Text) := do
  let run := text.takeWhile isBareChar
  let rest := text.dropWhile isBareChar
  let joined := match afterDate? run, rest with
    | some [], ' ' :: d :: more =>
      if d.isDigit then
        some (run ++ ' ' :: (d :: more).takeWhile isBareChar, (d :: more).dropWhile isBareChar)
      else none
    | _, _ => none
  let (run, rest) := joined.getD (run, rest)
  some (← scalarOf? run, rest)

end Toml

end DelugeAssist
