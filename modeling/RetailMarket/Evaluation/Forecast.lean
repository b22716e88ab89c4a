import RetailMarket.Tariff.Terms

/-!
# Cost forecasts

What a usage profile would cost under a tariff. Variable rates are priced between their expected
and their worst price, and tariffs that pay for regulation are credited with the regulation that
the customer expects to supply.
-/

namespace RetailMarket

/-- `mean` and `worst` are the normalised weights of the expected and the worst price. Regulation
is expected per hour; curtailment and discharge are not positive, absorption is not negative. -/
structure Forecaster (R : Type) where
  mean : R
  worst : R
  curtailment : R
  discharge : R
  absorption : R
  deriving Repr

namespace Forecaster

variable {R : Type} [Quantity R]

def withShares (forecaster : Forecaster R) (mean worst : R) : Forecaster R :=
  { forecaster with mean := mean / (mean + worst), worst := worst / (mean + worst) }

def standard : Forecaster R :=
  ({ mean := 0, worst := 0, curtailment := 0, discharge := 0, absorption := 0 } :
    Forecaster R).withShares 0.6 0.4

/-- Weights must not be negative and must have a positive sum; others are refused. -/
def setWeights (forecaster : Forecaster R) (mean worst : R) : Forecaster R :=
  if 0 < mean + worst ∧ ¬ mean < 0 ∧ ¬ worst < 0 then forecaster.withShares mean worst
  else forecaster

def setRegulation (forecaster : Forecaster R) (curtailment discharge absorption : R) :
    Forecaster R :=
  { forecaster with curtailment, discharge, absorption }

def expectedRegulation (forecaster : Forecaster R) : R :=
  forecaster.curtailment + forecaster.discharge + forecaster.absorption

/-- Consumption after the expected regulation; production is left as it is. -/
def regulated (forecaster : Forecaster R) (kwh : R) : R :=
  if 0 < kwh then Quantity.larger (kwh + forecaster.expectedRegulation) 0 else kwh

def price (forecaster : Forecaster R) (rate : Rate R) : R :=
  rate.weighted forecaster.mean forecaster.worst

def addHour (forecaster : Forecaster R) (tariff : Tariff R) (withPeriodic : Bool)
    (state : Instant × R) (kwh : R) : Instant × R :=
  let time := state.1.plus hourLength
  let cost := state.2 + tariff.usageChargeBy forecaster.price time (forecaster.regulated kwh)
  (time, if withPeriodic then cost + tariff.periodicPayment / 24.0 else cost)

/-- The cost of a usage whose first hour begins an hour after `start`; negative when the customer
pays. The regulation credit of each hour is the one of the last hour. -/
def cost (forecaster : Forecaster R) (tariff : Tariff R) (usage : List R) (start : Instant)
    (withPeriodic : Bool) : R :=
  let (time, cost) := usage.foldl (forecaster.addHour tariff withPeriodic) (start, 0)
  if tariff.hasRegulation then
    let credit :=
      tariff.regulationCharge time (forecaster.curtailment + forecaster.discharge)
        + tariff.regulationCharge time forecaster.absorption
    cost + credit * (usage.length : R)
  else cost

end Forecaster

end RetailMarket
