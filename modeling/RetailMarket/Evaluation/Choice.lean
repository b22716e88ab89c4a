import RetailMarket.Tariff.Terms

/-!
# Utility and choice

Alternatives are scored by their cost relative to the default tariff. Scores become logit
probabilities, and a sample picks an alternative by walking down the list of probabilities.
-/

namespace RetailMarket

namespace Utility

variable {R : Type} [Quantity R]

def linearBound : R := 7.0

/-- A cost relative to the default's, in units of the default's magnitude; a default that costs
nothing gives no ground for comparison. -/
def normalizedDifference (cost defaultCost : R) : R :=
  if defaultCost == 0 then 0 else (cost - defaultCost) / Quantity.magnitude defaultCost

/-- Above the linear range a utility grows by its logarithm up to twice the bound; below the range
it is cut off. -/
def constrained (utility : R) : R :=
  if linearBound < utility then
    Quantity.smaller (linearBound + Quantity.log10 (utility - linearBound)) (linearBound * 2.0)
  else if utility < -linearBound then -linearBound
  else utility

def sharpness (greatest rationality : R) : R := Quantity.power greatest rationality - 1

end Utility

structure Alternative (R : Type) where
  tariff : Tariff R
  utility : R
  probability : R
  deriving Repr

namespace Alternative

variable {R : Type} [Quantity R]

def scored (tariff : Tariff R) (utility : R) : Alternative R :=
  { tariff, utility, probability := 0 }

/-- Best first: by descending utility, and of equal ones the newer tariff. -/
def precedes (a b : Alternative R) : Bool :=
  Quantity.totalLE b.utility a.utility &&
    (!Quantity.totalLE a.utility b.utility || decide (b.tariff.id.number ≤ a.tariff.id.number))

def ranked (alternatives : List (Alternative R)) : List (Alternative R) :=
  alternatives.mergeSort precedes

def weight (sharpness : R) (alternative : Alternative R) : R :=
  Quantity.exp (sharpness * alternative.utility)

/-- Each alternative's share of the total weight; what is not a number counts as zero. -/
def assignProbabilities (sharpness : R) (alternatives : List (Alternative R)) :
    List (Alternative R) :=
  let whole := Quantity.total (alternatives.map (weight sharpness))
  alternatives.map fun a =>
    { a with probability := Quantity.replaceNaN (weight sharpness a / whole) }

def choose? (sample : R) : List (Alternative R) → Option (Tariff R)
  | [] => none
  | a :: rest =>
    if sample ≤ a.probability then some a.tariff else choose? (sample - a.probability) rest

end Alternative

end RetailMarket
