import RetailMarket.Customer
import RetailMarket.Evaluation.Appraisal
import RetailMarket.Evaluation.Forecast
import RetailMarket.Evaluation.Settings

/-!
# Evaluators

An evaluator chooses tariffs for one population. It owns the model of the population, its settings
and what it has appraised so far; here are the settings and the figures that follow from them.
-/

namespace RetailMarket

/-- Sharpness of a perfectly rational choice. -/
def greatestSharpness {R : Type} [Quantity R] : R := 50.0

def standardHours {R : Type} [Quantity R] : R := 2.0 * 24.0

/-- The period over which a signup fee is felt. -/
def signupFeePeriod : Int := 6 * hourLength

/-- `allocations` holds the net change of every tariff touched by the last evaluation, in order of
first touch, and `profileLength` the length of the last usage profile. -/
structure Evaluator (M R : Type) where
  customer : Customer
  model : M
  forecaster : Forecaster R
  cache : AppraisalCache R := {}
  allocations : List (Tariff R × Int) := []
  settings : ChoiceSettings R
  weights : FeatureWeights R
  evaluations : Nat := 0
  profileLength : Nat := 168

namespace Evaluator

variable {M R : Type} [Quantity R]

/-! ## Settings

Each setting is checked when it is made; one that is refused leaves the evaluator as it was. -/

def setFeatureWeights (e : Evaluator M R) (weights : FeatureWeights R) : Evaluator M R :=
  { e with weights := { weights with timeOfUse := Quantity.smaller weights.timeOfUse 0 } }

def standard (customer : Customer) (model : M) : Evaluator M R :=
  ({ customer, model, forecaster := .standard, settings := .standard, weights := .standard } :
    Evaluator M R).setFeatureWeights .standard

def setChunkSize (e : Evaluator M R) (size : Nat) : Evaluator M R :=
  if 0 < size then { e with settings := { e.settings with chunkSize := size } } else e

def setMaxChunkCount (e : Evaluator M R) (count : Nat) : Evaluator M R :=
  if 0 < count then { e with settings := { e.settings with maxChunkCount := count } } else e

def setDepth (e : Evaluator M R) (depth : Nat) : Evaluator M R :=
  { e with settings := { e.settings with depth } }

def setInertia (e : Evaluator M R) (inertia : R) : Evaluator M R :=
  { e with settings := { e.settings with inertia } }

def setSignupBonusFactor (e : Evaluator M R) (factor : R) : Evaluator M R :=
  { e with settings := { e.settings with signupBonusFactor := factor } }

def setRationality (e : Evaluator M R) (rationality : R) : Evaluator M R :=
  if Quantity.within 0 1 rationality then
    { e with settings := { e.settings with rationality } }
  else e

def setInconvenienceWeight (e : Evaluator M R) (weight : R) : Evaluator M R :=
  { e with settings := { e.settings with inconvenienceWeight := weight } }

def setSwitchFactor (e : Evaluator M R) (factor : R) : Evaluator M R :=
  { e with settings := { e.settings with switchFactor := factor } }

def setPreferredDays (e : Evaluator M R) (days : R) : Evaluator M R :=
  if 0 < days then { e with settings := { e.settings with preferredDays := days } } else e

def setEvaluateAll (e : Evaluator M R) (evaluateAll : Bool) : Evaluator M R :=
  { e with
    settings := { e.settings with evaluateAll }
    cache := e.cache.setBypass evaluateAll }

def setRegulation (e : Evaluator M R) (curtailment discharge absorption : R) : Evaluator M R :=
  { e with
    forecaster := e.forecaster.setRegulation
      (if 0 < curtailment then 0 else curtailment)
      (if 0 < discharge then 0 else discharge)
      (if absorption < 0 then 0 else absorption) }

def setPriceWeights (e : Evaluator M R) (mean worst : R) : Evaluator M R :=
  { e with forecaster := e.forecaster.setWeights mean worst }

def setChoice (e : Evaluator M R) (settings : ChoiceSettings R) : Evaluator M R :=
  e.setChunkSize settings.chunkSize
    |>.setMaxChunkCount settings.maxChunkCount
    |>.setDepth settings.depth
    |>.setInertia settings.inertia
    |>.setSignupBonusFactor settings.signupBonusFactor
    |>.setRationality settings.rationality
    |>.setInconvenienceWeight settings.inconvenienceWeight
    |>.setSwitchFactor settings.switchFactor
    |>.setPreferredDays settings.preferredDays
    |>.setEvaluateAll settings.evaluateAll

/-! ## Figures -/

/-- Net change over all tariffs; zero if the evaluation moved members and lost none. -/
def allocationBalance (e : Evaluator M R) : Int := (e.allocations.map Prod.snd).foldr (· + ·) 0

def scale (e : Evaluator M R) : R := (e.profileLength : R) / standardHours

def powerOfTwo : Nat → R
  | 0 => 1
  | n + 1 => 2.0 * powerOfTwo n

/-- The inertia of the next evaluation, which grows with the number of evaluations from zero
toward its setting. -/
def effectiveInertia (e : Evaluator M R) : R :=
  Quantity.larger ((1 - 2.0 / powerOfTwo e.evaluations) * e.settings.inertia) 0

def inconvenience (e : Evaluator M R) (tariff : Tariff R) : R :=
  let weigh (has : Bool) (weight sum : R) : R := if has then sum + weight else sum
  weigh tariff.isInterruptible e.weights.interruptible <|
    weigh tariff.isVariable e.weights.ranging <|
      weigh tariff.isTiered e.weights.tiered <|
        weigh tariff.isTimeOfUse e.weights.timeOfUse 0

/-- A signup fee weighs as often as its period fits into the preferred contract duration; a bonus
is scaled to the profile. -/
def signupCost (e : Evaluator M R) (tariff : Tariff R) : R :=
  let payment := tariff.signupPayment
  if payment < 0 then
    payment * e.settings.preferredDays * Quantity.ofInt dayLength / Quantity.ofInt signupFeePeriod
  else payment * e.scale

/-- The cost of leaving a tariff later. Contracts of at most a day have none; a penalty weighs by
the ratio of the minimum to the preferred duration. -/
def withdrawCost (e : Evaluator M R) (tariff : Tariff R) : R :=
  let payment := tariff.earlyWithdrawPayment
  if (tariff.minDuration : Int) ≤ dayLength ∨ (payment == 0) = true then 0
  else
    let annoyance : R :=
      if payment < 0 then
        (tariff.minDuration : R) / (e.settings.preferredDays * Quantity.ofInt dayLength)
      else 1
    payment * annoyance * e.scale

/-- The number of members that a population allowed to split moves by one decision. -/
def chunkFor (e : Evaluator M R) (population : Nat) : Nat :=
  if population ≤ e.settings.chunkSize then population
  else max (population / e.settings.maxChunkCount) e.settings.chunkSize

/-- The number of members moved by one decision. A population that may not split moves as a
whole. -/
def decisionChunk (e : Evaluator M R) (population : Nat) : Nat :=
  if e.customer.multiContracting then e.chunkFor population else population

end Evaluator

end RetailMarket
