import RetailMarket.Tariff.Terms

/-!
# Customers

A customer is a population of identical members. How it behaves is up to a model, which forecasts
usage, weighs moves and supplies the samples behind every choice.
-/

namespace RetailMarket

structure CustomerId where
  number : Nat
  deriving DecidableEq, Repr, Inhabited, Hashable

def CustomerId.text (id : CustomerId) : String := "c" ++ toString id.number

/-- Only a population with `multiContracting` may be split over several tariffs. -/
structure Customer where
  id : CustomerId
  name : String
  population : Nat
  powerType : PowerType
  multiContracting : Bool := false
  deriving DecidableEq, Repr

/-- Expected usage of one member, hour by hour; `usage` begins one hour after `start`. A
state-dependent profile must not be used again in a later cycle. -/
structure UsageProfile (R : Type) where
  usage : List R
  start : Instant
  stateDependent : Bool := false
  deriving Repr

structure Transfer where
  customer : CustomerId
  origin : TariffId
  destination : TariffId
  count : Nat
  deriving DecidableEq, Repr

/-- The behaviour of a customer. `switchFactor` is the inconvenience of another broker; its flag
says that the move follows a revoked tariff. Samples lie in `[0, 1)`. -/
class CustomerModel (M : Type) (R : outParam Type) where
  profile : M → Tariff R → Instant → UsageProfile R × M
  switchFactor : M → Bool → R
  choiceSample : M → R × M
  inertiaSample : M → R × M
  shiftingInconvenience : M → Tariff R → R
  notify : M → Transfer → M

end RetailMarket
