-- Double-precision numbers, exactly. A finite number is a whole significand times a power of two;
-- rounding a ratio goes to the nearest such number, and a tie goes to the even significand.

namespace DelugeAssist

/-- A double-precision number. A finite one stands for `significand * 2 ^ exponent`. -/
inductive Binary64 where
  | finite (negative : Bool) (significand : Nat) (exponent : Int)
  | infinite (negative : Bool)
  | notANumber
deriving DecidableEq, Repr

/-- The nearest whole number to `num / den`; the even one of two that are as near. -/
def roundRatio (num den : Nat) : Nat :=
  let below := num / den
  let twice := 2 * (num % den)
  if den < twice || (twice = den && below % 2 = 1) then below + 1 else below

namespace Binary64

/-- The exponent of the smallest numbers. -/
def leastExponent : Int := -1074

/-- The exponent of the greatest numbers. -/
def greatestExponent : Int := 971

/-- Significands lie below this; those of all but the smallest numbers reach half of it. -/
def significandBound : Nat := Nat.pow 2 53

def zero (negative : Bool) : Binary64 := .finite negative 0 leastExponent

/-- `num / den / 2 ^ exponent` as a ratio. -/
def scaled (num den : Nat) (exponent : Int) : Nat × Nat :=
  (num * Nat.pow 2 (-exponent).toNat, den * Nat.pow 2 exponent.toNat)

/-- The exponent at which `num / den` has a significand of full length, or the least one. -/
def exponentOf (num den : Nat) : Int :=
  let guess : Int := (num.log2 : Int) - (den.log2 : Int) - 52
  let (n, d) := scaled num den guess
  max leastExponent (if n / d < significandBound / 2 then guess - 1 else guess)

/-- The number nearest to `num / den`, with a sign. -/
def ofRatio (negative : Bool) (num den : Nat) : Binary64 :=
  if num = 0 then zero negative
  else
    let exponent := exponentOf num den
    let (n, d) := scaled num den exponent
    let significand := roundRatio n d
    let (significand, exponent) :=
      if significand = significandBound then (significandBound / 2, exponent + 1)
      else (significand, exponent)
    if greatestExponent < exponent then .infinite negative
    else .finite negative significand exponent

/-- The number nearest to `digits * 10 ^ exponent`, with a sign. -/
def ofDecimal (negative : Bool) (digits : Nat) (exponent : Int) : Binary64 :=
  ofRatio negative (digits * Nat.pow 10 exponent.toNat) (Nat.pow 10 (-exponent).toNat)

/-- A finite size as a ratio. -/
def ratio (significand : Nat) (exponent : Int) : Nat × Nat :=
  (significand * Nat.pow 2 exponent.toNat, Nat.pow 2 (-exponent).toNat)

/-- The product of two sizes, rounded. -/
def times (negative : Bool) : Binary64 → Binary64 → Binary64
  | .finite _ m e, .finite _ n f =>
    let (a, b) := ratio m e
    let (c, d) := ratio n f
    ofRatio negative (a * c) (b * d)
  | _, _ => .infinite negative

/-- The quotient of two sizes, rounded. -/
def dividedBy (negative : Bool) : Binary64 → Binary64 → Binary64
  | .finite _ m e, .finite _ n f =>
    let (a, b) := ratio m e
    let (c, d) := ratio n f
    ofRatio negative (a * d) (b * c)
  | _, _ => zero negative

end Binary64

end DelugeAssist
