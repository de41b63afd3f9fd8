-- Punycode: a label with characters beyond ASCII written in ASCII. The ASCII characters stand
-- first, and each of the others is inserted by a number that tells how far it lies from the one
-- before.

import DelugeAssist.Text.Measure

namespace DelugeAssist

namespace Punycode

/-- The digit of a value below 36: the letters, then the digits. -/
def digitChar (value : Nat) : Char :=
  if value < 26 then Char.ofNat ('a'.toNat + value) else Char.ofNat ('0'.toNat + (value - 26))

/-- The value of a digit. -/
def digitValue? (c : Char) : Option Nat :=
  if c.isLower then some (c.toNat - 'a'.toNat)
  else if c.isUpper then some (c.toNat - 'A'.toNat)
  else if c.isDigit then some (c.toNat - '0'.toNat + 26)
  else none

/-- The bound below which a digit ends a number, by the place of the digit. -/
def threshold (place bias : Nat) : Nat :=
  if place ≤ bias + 1 then 1 else if bias + 26 ≤ place then 26 else place - bias

theorem threshold_pos (place bias : Nat) : 1 ≤ threshold place bias := by
  unfold threshold; split
  · omega
  · split <;> omega

theorem threshold_le (place bias : Nat) : threshold place bias ≤ 26 := by
  unfold threshold; split
  · omega
  · split <;> omega

/-- The distance cut down until it is small, with 36 counted for every cut. -/
def cutDown (distance counted : Nat) : Nat × Nat :=
  if 455 < distance then cutDown (distance / 35) (counted + 36) else (distance, counted)
termination_by distance
decreasing_by omega

/-- The bias for the number after a distance. -/
def adapt (distance count : Nat) (first : Bool) : Nat :=
  let halved := if first then distance / 700 else distance / 2
  let (rest, counted) := cutDown (halved + halved / count) 0
  counted + 36 * rest / (rest + 38)

/-- A number in digits, the least first. -/
def numberDigits (bias place n : Nat) : Text :=
  let t := threshold place bias
  if n < t then [digitChar n]
  else digitChar (t + (n - t) % (36 - t)) :: numberDigits bias (place + 36) ((n - t) / (36 - t))
termination_by n
decreasing_by
  have h := threshold_pos place bias
  have h' := threshold_le place bias
  have := Nat.div_le_self (n - threshold place bias) (36 - threshold place bias)
  omega

/-- Where the encoding of a label stands. -/
structure Progress where
  written : Text
  distance : Nat
  bias : Nat
  handled : Nat

/-- One more character of the label, on the round for the character of value `value`. -/
def visit (plain value : Nat) (p : Progress) (c : Char) : Progress :=
  if c.toNat < value then { p with distance := p.distance + 1 }
  else if c.toNat = value then
    { written := p.written ++ numberDigits p.bias 36 p.distance
      distance := 0
      bias := adapt p.distance (p.handled + 1) (p.handled = plain)
      handled := p.handled + 1 }
  else p

/-- A round for each of the values, in rising order, from a value on. -/
def rounds (label : Text) (plain : Nat) : (values : List Nat) → (next : Nat) → Progress → Progress
  | [], _, p => p
  | value :: values, next, p =>
    let p := { p with distance := p.distance + (value - next) * (p.handled + 1) }
    let p := label.foldl (visit plain value) p
    rounds label plain values (value + 1) { p with distance := p.distance + 1 }

/-- A label in ASCII. -/
def encode (label : Text) : Text :=
  let plain := label.filter fun c => c.toNat < 0x80
  let values := ((label.map Char.toNat).filter fun n => 0x80 ≤ n).mergeSort.eraseDups
  let p := rounds label plain.length values 0x80 ⟨[], 0, 72, plain.length⟩
  plain ++ (if plain.isEmpty then [] else ['-']) ++ p.written

/-- A number at the beginning of a text, added to `total` with weights from `weight` on. -/
def readNumber? (bias : Nat) : Text → (place weight total : Nat) → Option (Nat × Text)
  | [], _, _, _ => none
  | c :: rest, place, weight, total =>
    match digitValue? c with
    | none => none
    | some digit =>
      let t := threshold place bias
      if digit < t then some (total + digit * weight, rest)
      else readNumber? bias rest (place + 36) (weight * (36 - t)) (total + digit * weight)

/-- The label with the characters of the numbers inserted. -/
def insertAll? : (fuel : Nat) → Text → (bias value place : Nat) → Text → Option Text
  | 0, _, _, _, _, _ => none
  | _ + 1, label, _, _, _, [] => some label
  | fuel + 1, label, bias, value, place, digits => do
    let (total, rest) ← readNumber? bias digits 36 1 place
    let count := label.length + 1
    let value := value + total / count
    if value.isValidChar then
      insertAll? fuel (label.insertIdx (total % count) (Char.ofNat value))
        (adapt (total - place) count (place = 0)) value (total % count + 1) rest
    else none

/-- The label that a text in ASCII stands for. -/
def decode? (text : Text) : Option Text :=
  let tail := (text.reverse.takeWhile (· ≠ '-')).reverse
  let plain := (text.take (text.length - tail.length)).dropLast
  insertAll? (tail.length + 1) plain 72 0x80 0 tail

end Punycode

end DelugeAssist
