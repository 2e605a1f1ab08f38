/-!
# Decimal numerals rounded to 64-bit binary numbers

A numeral with a point or an exponent stands for the nearest binary number with 53 significant
bits, a tie going to the even neighbour. Numerals beyond the largest such number are infinite;
those too small for the least positive one are zero.
-/

set_option autoImplicit false
set_option relaxedAutoImplicit false

namespace Cardfile

/-- A 64-bit binary number: `mantissa · 2 ^ exponent`, an infinity, or no number at all. -/
inductive Binary64 where
  | finite (mantissa exponent : Int)
  | infinite (negative : Bool)
  | notANumber
  deriving DecidableEq, Repr

namespace Binary64

/-- `numerator / denominator` rounded to a whole number, a half going to the even neighbour. -/
def roundHalfEven (numerator denominator : Nat) : Nat :=
  let quotient := numerator / denominator
  let twice := 2 * (numerator % denominator)
  if twice < denominator then quotient
  else if denominator < twice then quotient + 1
  else quotient + quotient % 2

/-- The fraction divided by `2 ^ exponent`, again as a fraction. -/
def scale (numerator denominator : Nat) (exponent : Int) : Nat × Nat :=
  if 0 ≤ exponent then (numerator, denominator * Nat.pow 2 exponent.toNat)
  else (numerator * Nat.pow 2 (-exponent).toNat, denominator)

/-- The greatest exponent whose power of two does not exceed a positive fraction. -/
def floorLog (numerator denominator : Nat) : Int :=
  let estimate : Int := (numerator.log2 : Int) - denominator.log2
  let (n, d) := scale numerator denominator estimate
  if d ≤ n then estimate else estimate - 1

/-- The exponent of the last of the 53 bits, never below that of the least positive number. -/
def unitExponent (numerator denominator : Nat) : Int :=
  max (floorLog numerator denominator - 52) (-1074)

def ofFraction (negative : Bool) (numerator denominator : Nat) : Binary64 :=
  let exponent := unitExponent numerator denominator
  let (n, d) := scale numerator denominator exponent
  let mantissa := roundHalfEven n d
  if 971 < exponent || (exponent == 971 && Nat.pow 2 53 ≤ mantissa) then .infinite negative
  else .finite (if negative then -(mantissa : Int) else mantissa) exponent

/-- The number nearest to `digits · 10 ^ exponent`. Exponents far outside the range are decided
without computing the power. -/
def ofDecimal (negative : Bool) (digits : Nat) (exponent : Int) : Binary64 :=
  if digits = 0 then .finite 0 0
  else if 400 < exponent then .infinite negative
  else if exponent + digits.log2 < -400 then .finite 0 0
  else if 0 ≤ exponent then ofFraction negative (digits * Nat.pow 10 exponent.toNat) 1
  else ofFraction negative digits (Nat.pow 10 (-exponent).toNat)

/-- The value, when it is a whole number. -/
def whole? : Binary64 → Option Int
  | .finite mantissa exponent =>
    if 0 ≤ exponent then some (mantissa * Int.pow 2 exponent.toNat)
    else
      let unit := Int.pow 2 (-exponent).toNat
      if mantissa % unit = 0 then some (mantissa / unit) else none
  | _ => none

end Binary64

end Cardfile
