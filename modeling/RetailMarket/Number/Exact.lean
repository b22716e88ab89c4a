/-!
# The exact value of a 64-bit number

A finite 64-bit number is a significand times a power of two. Everything that has to be exact
about such a number, its decimal text and its whole part, is computed from that pair over the
natural numbers.
-/

namespace RetailMarket

inductive ExactValue where
  | nan
  | infinite (negative : Bool)
  | finite (negative : Bool) (significand : Nat) (exponent : Int)
  deriving DecidableEq, Repr

namespace ExactValue

/-- Sign bit, eleven exponent bits and fifty-two fraction bits. The value of `finite n m e` is
`m * 2 ^ e`, negated if `n`. -/
def ofFloat (x : Float) : ExactValue :=
  let bits := x.toBits.toNat
  let negative := bits / Nat.pow 2 63 == 1
  let biased := bits / Nat.pow 2 52 % Nat.pow 2 11
  let fraction := bits % Nat.pow 2 52
  if biased = 2047 then
    if fraction = 0 then .infinite negative else .nan
  else if biased = 0 then
    .finite negative fraction (-1074)
  else
    .finite negative (Nat.pow 2 52 + fraction) (Int.ofNat biased - 1075)

def fraction (significand : Nat) (exponent : Int) : Nat × Nat :=
  if 0 ≤ exponent then (significand * Nat.pow 2 exponent.toNat, 1)
  else (significand, Nat.pow 2 (-exponent).toNat)

def leastWhole : Int := Int64.minValue.toInt

def greatestWhole : Int := Int64.maxValue.toInt

/-- The whole part toward zero, kept within signed 64 bits; zero for what is not a number. -/
def wholePart : ExactValue → Int
  | .nan => 0
  | .infinite negative => if negative then leastWhole else greatestWhole
  | .finite negative significand exponent =>
    let (numerator, denominator) := fraction significand exponent
    let magnitude : Int := Int.ofNat (numerator / denominator)
    if negative then max (-magnitude) leastWhole else min magnitude greatestWhole

end ExactValue

end RetailMarket
