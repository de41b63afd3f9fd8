-- The shortest decimal of a double-precision number: of the decimals that read back as the number,
-- one with the fewest digits, and of those the nearest. How it is then written is a style.

import DelugeAssist.Number.Binary64

namespace DelugeAssist

/-- The decimal `digits * 10 ^ exponent`. -/
structure Decimal where
  digits : Nat
  exponent : Int
deriving DecidableEq, Repr

namespace Decimal

/-- The same decimal without zeros at the end of its digits. -/
def trimmed (fuel : Nat) (d : Decimal) : Decimal :=
  match fuel with
  | 0 => d
  | fuel + 1 =>
    if d.digits % 10 = 0 then trimmed fuel ⟨d.digits / 10, d.exponent + 1⟩ else d

end Decimal

namespace Shortest

/-- The numbers that round to a given one, as whole multiples of a common unit. -/
structure Interval where
  low : Nat
  value : Nat
  high : Nat
  unit : Nat
  /-- Whether the two ends round to the number too. -/
  closed : Bool

/-- The interval of `significand * 2 ^ exponent`. Below a power of two the numbers lie twice as
close as above it. -/
def Interval.of (significand : Nat) (exponent : Int) : Interval :=
  let up := Nat.pow 2 (exponent - 2).toNat
  let below :=
    if significand = Binary64.significandBound / 2 ∧ Binary64.leastExponent < exponent then 1 else 2
  { low := (4 * significand - below) * up
    value := 4 * significand * up
    high := (4 * significand + 2) * up
    unit := Nat.pow 2 (2 - exponent).toNat
    closed := significand % 2 = 0 }

/-- How many decimal digits a whole number has. -/
def digitCount (n : Nat) : Nat := (Nat.toDigits 10 n).length

/-- The power of ten of the first digit of `num / den`. -/
def leadingPower (num den : Nat) : Int :=
  if den ≤ num then (digitCount (num / den) : Int) - 1
  else -(digitCount ((den + num - 1) / num - 1) : Int)

/-- Whether `q` steps of `grid` lie in the interval, which is scaled by `scale`. -/
def Interval.holds (i : Interval) (scale grid q : Nat) : Bool :=
  if i.closed then decide (i.low * scale ≤ q * grid) && decide (q * grid ≤ i.high * scale)
  else decide (i.low * scale < q * grid) && decide (q * grid < i.high * scale)

/-- The point nearest to the number, of the two beside it that are multiples of `10 ^ power` and
lie in the interval; the even one of two that are as near. -/
def Interval.nearest? (i : Interval) (power : Int) : Option Decimal :=
  let scale := Nat.pow 10 (-power).toNat
  let grid := i.unit * Nat.pow 10 power.toNat
  let value := i.value * scale
  let below := value / grid
  let rest := value % grid
  match i.holds scale grid below, i.holds scale grid (below + 1) with
  | false, false => none
  | true, false => some ⟨below, power⟩
  | false, true => some ⟨below + 1, power⟩
  | true, true =>
    if 2 * rest < grid || (2 * rest = grid && below % 2 = 0) then some ⟨below, power⟩
    else some ⟨below + 1, power⟩

/-- The first hit on the grids of one digit, two digits, and so on. -/
def Interval.search (i : Interval) (leading : Int) : (fuel count : Nat) → Decimal
  | 0, _ => ⟨0, 0⟩
  | fuel + 1, count =>
    match i.nearest? (leading + 1 - count) with
    | some d => d.trimmed count
    | none => i.search leading fuel (count + 1)

/-- The shortest decimal that reads back as `significand * 2 ^ exponent`. Seventeen digits always
suffice. -/
def decimal (significand : Nat) (exponent : Int) : Decimal :=
  if significand = 0 then ⟨0, 0⟩
  else
    let i := Interval.of significand exponent
    i.search (leadingPower i.value i.unit) 18 1

end Shortest

/-- How a number is written: the powers of ten of its first digit between which it is written in
place, without an exponent. An end that is not set does not bind. -/
structure DecimalStyle where
  least : Option Int := none
  greatest : Option Int := none

namespace DecimalStyle

/-- Whether a number whose first digit has the given power of ten is written in place. -/
def inPlace (style : DecimalStyle) (power : Int) : Bool :=
  style.least.all (decide <| · ≤ power) && style.greatest.all (decide <| power ≤ ·)

/-- The digits of a decimal written in place, always with a point and a digit after it. -/
def written (digits : List Char) (exponent : Int) : List Char :=
  let count : Int := digits.length
  if 0 ≤ exponent then digits ++ List.replicate exponent.toNat '0' ++ ['.', '0']
  else if 0 < count + exponent then
    digits.take (count + exponent).toNat ++ ['.'] ++ digits.drop (count + exponent).toNat
  else ['0', '.'] ++ List.replicate (-(count + exponent)).toNat '0' ++ digits

/-- The digits of a decimal with an exponent and its sign. -/
def writtenWithExponent (digits : List Char) (power : Int) : List Char :=
  let mark := if power < 0 then ['e', '-'] else ['e', '+']
  let fraction := match digits.drop 1 with
    | [] => []
    | more => '.' :: more
  digits.take 1 ++ fraction ++ mark ++ Nat.toDigits 10 power.natAbs

/-- A number in a style. -/
def render (style : DecimalStyle) : Binary64 → List Char
  | .notANumber => ['N', 'a', 'N']
  | .infinite negative => (if negative then ['-'] else []) ++ ['i', 'n', 'f']
  | .finite negative significand exponent =>
    let d := Shortest.decimal significand exponent
    let digits := Nat.toDigits 10 d.digits
    let power := d.exponent + digits.length - 1
    (if negative then ['-'] else []) ++
      if style.inPlace power then written digits d.exponent else writtenWithExponent digits power

end DecimalStyle

end DelugeAssist
