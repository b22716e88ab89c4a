import RetailMarket.Quantity

/-!
# Settings of an evaluation
-/

namespace RetailMarket

/-- How a population chooses. `chunkSize` is the least number of members moved by one decision and
`maxChunkCount` the number of decisions aimed at for a large population; `depth` is how many recent
tariffs of a broker and power type are considered. -/
structure ChoiceSettings (R : Type) where
  chunkSize : Nat := 1
  maxChunkCount : Nat := 200
  depth : Nat := 5
  inertia : R
  signupBonusFactor : R
  rationality : R
  inconvenienceWeight : R
  switchFactor : R
  preferredDays : R
  evaluateAll : Bool := false
  deriving Repr

structure FeatureWeights (R : Type) where
  timeOfUse : R
  tiered : R
  ranging : R
  interruptible : R
  deriving Repr

variable {R : Type} [Quantity R]

def ChoiceSettings.standard : ChoiceSettings R :=
  { inertia := 0.8, signupBonusFactor := 0.1, rationality := 0.9, inconvenienceWeight := 0.2,
    switchFactor := 0.04, preferredDays := 6.0 }

def FeatureWeights.standard : FeatureWeights R :=
  { timeOfUse := 0.2, tiered := 0.1, ranging := 0.5, interruptible := 0.2 }

end RetailMarket
