import RetailMarket.Quantity

/-!
# Rates

Prices for one kilowatt hour. Prices are seen from the customer: negative ones are paid by a
consumer, positive ones are paid to a producer.
-/

namespace RetailMarket

/-- Hours of the day from `first` on and before `last`. A window whose first hour is later than
its last wraps past midnight; equal hours cover the whole day. -/
structure DailyWindow where
  first : Nat
  last : Nat
  deriving DecidableEq, Repr

def DailyWindow.contains (window : DailyWindow) (hour : Nat) : Bool :=
  if window.first = window.last then true
  else if window.first < window.last then
    decide (window.first ≤ hour) && decide (hour < window.last)
  else
    decide (window.first ≤ hour) || decide (hour < window.last)

/-- What the broker expects to charge on average, and at worst. -/
structure PriceRange (R : Type) where
  mean : R
  worst : R
  deriving Repr

/-- A price component. `price` is the fixed price, or the least price of a variable rate, and
`curtailable` is the share of the usage that the broker may curtail. -/
structure Rate (R : Type) where
  price : R
  window : Option DailyWindow := none
  threshold : R
  range : Option (PriceRange R) := none
  curtailable : R
  deriving Repr

namespace Rate

variable {R : Type} [Quantity R]

def fixed (price : R) : Rate R := { price, threshold := 0, curtailable := 0 }

def ranging (least mean worst : R) : Rate R :=
  { fixed least with range := some { mean, worst } }

def isFixed (rate : Rate R) : Bool := rate.range.isNone

def isTimeOfUse (rate : Rate R) : Bool := rate.window.isSome

def appliesAt (rate : Rate R) (hour : Nat) : Bool :=
  rate.window.all fun window => window.contains hour

def settled (rate : Rate R) : R :=
  match rate.range with
  | none => rate.price
  | some range => range.mean

def weighted (weightMean weightWorst : R) (rate : Rate R) : R :=
  match rate.range with
  | none => rate.price
  | some range => weightMean * range.mean + weightWorst * range.worst

end Rate

/-- Payments for balancing energy: `up` to the customer for a kilowatt hour curtailed, `down` by
the customer for one absorbed. -/
structure RegulationRate (R : Type) where
  up : R
  down : R
  deriving Repr

end RetailMarket
