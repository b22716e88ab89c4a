/-!
# Reading numbers

Digits in a base, the number they make, and the 64-bit number nearest to a decimal.
-/

namespace RetailMarket

/-- The value of a digit in bases up to sixteen; sixteen for what is no digit. -/
def digitValue (c : Char) : Nat :=
  if c.isDigit then c.toNat - '0'.toNat
  else if 'a' ≤ c ∧ c ≤ 'f' then c.toNat - 'a'.toNat + 10
  else if 'A' ≤ c ∧ c ≤ 'F' then c.toNat - 'A'.toNat + 10
  else 16

def ofDigits (base : Nat) (digits : List Nat) : Nat :=
  digits.foldl (fun value digit => value * base + digit) 0

/-- The 64-bit number nearest to a decimal, given by its digits and the power of ten of its last
digit. Exponents far outside the range of such numbers are not worked out. -/
def nearestNumber (digits : List Nat) (exponent : Int) : Float :=
  let significand := ofDigits 10 digits
  let top := exponent + digits.length
  if significand = 0 ∨ top < -400 then 0
  else if 400 + digits.length < top then 1.0 / 0.0
  else Float.ofScientific significand (decide (exponent < 0)) exponent.natAbs

end RetailMarket
