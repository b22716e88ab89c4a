import RetailMarket.Number.Exact

/-!
# Decimal text

The text of a 64-bit number with a fixed number of decimal places, or with a fixed number of
digits and a power of ten. The exact value is rounded to the last place, a tie goes to the even
neighbour, and the sign is written whenever the sign bit is set, also before a zero.
-/

namespace RetailMarket.Decimal

/-- The natural number nearest to a fraction; a tie goes to the even neighbour. -/
def roundHalfEven (numerator denominator : Nat) : Nat :=
  let quotient := numerator / denominator
  let twice := 2 * (numerator % denominator)
  if twice < denominator then quotient
  else if denominator < twice then quotient + 1
  else if quotient % 2 = 0 then quotient
  else quotient + 1

def padLeft (width : Nat) (fill : Char) (text : String) : String :=
  "".pushn fill (width - text.length) ++ text

def padRight (width : Nat) (fill : Char) (text : String) : String :=
  text.pushn fill (width - text.length)

def signText (negative : Bool) : String :=
  if negative then "-" else ""

def pointText (places scaled : Nat) : String :=
  toString (scaled / Nat.pow 10 places) ++ "." ++
    padLeft places '0' (toString (scaled % Nat.pow 10 places))

def fixedText (places : Nat) (x : Float) : String :=
  match ExactValue.ofFloat x with
  | .nan => "NaN"
  | .infinite negative => signText negative ++ "inf"
  | .finite negative significand exponent =>
    let (numerator, denominator) := ExactValue.fraction significand exponent
    signText negative ++
      pointText places (roundHalfEven (numerator * Nat.pow 10 places) denominator)

/-! ## Scientific notation -/

def digitCount (n : Nat) : Int := Int.ofNat (toString n).length

def shifted (numerator denominator : Nat) (power : Int) : Nat × Nat :=
  if 0 ≤ power then (numerator, denominator * Nat.pow 10 power.toNat)
  else (numerator * Nat.pow 10 (-power).toNat, denominator)

/-- The power of ten of the first digit of a positive fraction. -/
def leadingPower (numerator denominator : Nat) : Int :=
  let power := digitCount numerator - digitCount denominator
  let (n, d) := shifted numerator denominator power
  if d ≤ n then power else power - 1

/-- One digit before the point, `places` after it, and the power of ten. -/
def scientificText (places : Nat) (x : Float) : String :=
  match ExactValue.ofFloat x with
  | .nan => "nan"
  | .infinite negative => signText negative ++ "inf"
  | .finite negative significand exponent =>
    if significand = 0 then signText negative ++ pointText places 0 ++ "e0"
    else
      let (numerator, denominator) := ExactValue.fraction significand exponent
      let power := leadingPower numerator denominator
      let (n, d) := shifted numerator denominator (power - places)
      let rounded := roundHalfEven n d
      if rounded = Nat.pow 10 (places + 1) then
        signText negative ++ pointText places (Nat.pow 10 places) ++ "e" ++ toString (power + 1)
      else signText negative ++ pointText places rounded ++ "e" ++ toString power

end RetailMarket.Decimal
