import RetailMarket.Customer.Sampled
import RetailMarket.Evaluation.Settings

/-!
# Scenarios

A scenario is all that a run is made of: its length, how populations choose, the control exercised
over them, the populations themselves and the schedule of tariffs.
-/

namespace RetailMarket

structure RunSettings (R : Type) where
  seed : UInt64 := 42
  cycles : Nat := 7
  timeslotsPerCycle : Nat := 24
  profileHours : Nat := 168
  brokerSwitchFactor : R
  deriving Repr

structure ExpectedRegulation (R : Type) where
  curtailment : R
  discharge : R
  absorption : R
  deriving Repr

/-- Control inside a daily window: `ratio` of the capacity is curtailed, and `balancingShare` of
what is left is taken as balancing energy. -/
structure ControlSettings (R : Type) where
  ratio : R
  balancingShare : R
  window : DailyWindow := ⟨17, 21⟩
  deriving Repr

structure PriceWeights (R : Type) where
  mean : R
  worst : R
  deriving Repr

structure CustomerPlan (R : Type) where
  name : String := "village"
  population : Nat := 1000
  powerType : PowerType := .consumption
  multiContracting : Bool := true
  shape : UsageShape R
  deriving Repr

/-- A rate that takes precedence in a daily window. -/
structure PeakRate (R : Type) where
  window : DailyWindow
  price : R
  deriving Repr

/-- A rate that takes over from a threshold of usage on. -/
structure TierRate (R : Type) where
  threshold : R
  price : R
  deriving Repr

/-- A tariff and its schedule. `range` makes the base rate variable with `price` as its least, and
`supersedes` is the key of the tariff that this one replaces. -/
structure TariffPlan (R : Type) where
  key : String := ""
  broker : String := "default"
  powerType : PowerType := .consumption
  price : R
  range : Option (PriceRange R) := none
  peak : Option (PeakRate R) := none
  tier : Option (TierRate R) := none
  curtailable : R
  regulation : Option (RegulationRate R) := none
  signupPayment : R
  earlyWithdrawPayment : R
  periodicPayment : R
  minDurationDays : R
  publishCycle : Nat := 0
  revokeCycle : Option Nat := none
  supersedes : Option String := none
  isDefault : Bool := false
  deriving Repr

structure Scenario (R : Type) where
  run : RunSettings R
  choice : ChoiceSettings R
  weights : FeatureWeights R
  regulation : ExpectedRegulation R
  control : ControlSettings R
  prices : PriceWeights R
  customers : List (CustomerPlan R)
  tariffs : List (TariffPlan R)
  deriving Repr

variable {R : Type} [Quantity R]

def RunSettings.standard : RunSettings R := { brokerSwitchFactor := 0.02 }

def ExpectedRegulation.none : ExpectedRegulation R := ⟨0, 0, 0⟩

def ControlSettings.none : ControlSettings R := { ratio := 0, balancingShare := 0 }

def ControlSettings.isActive (control : ControlSettings R) : Bool :=
  !(control.ratio == 0) || decide (0 < control.balancingShare)

def PriceWeights.standard : PriceWeights R := ⟨0.6, 0.4⟩

def CustomerPlan.village : CustomerPlan R :=
  { shape := { base := 1, amplitude := 0.5, noise := 0.05 } }

/-- The customer that a plan describes; its number is its position among the customers. -/
def CustomerPlan.customer (plan : CustomerPlan R) (number : Nat) : Customer :=
  { id := ⟨number⟩, name := plan.name, population := plan.population,
    powerType := plan.powerType, multiContracting := plan.multiContracting }

namespace TariffPlan

def standard : TariffPlan R :=
  { price := -0.15, curtailable := 0, signupPayment := 0, earlyWithdrawPayment := 0,
    periodicPayment := 0, minDurationDays := 0 }

def named (key broker : String) (powerType : PowerType) (price : R) : TariffPlan R :=
  { standard with key, broker, powerType, price }

/-- The tariff that a plan describes. The base rate covers the whole day; a peak rate comes after
it and so goes before it in its window; a tier rate takes over above its threshold. -/
def tariff (plan : TariffPlan R) (id : TariffId) (supersedes : Option TariffId) : Tariff R :=
  let base : Rate R := { Rate.fixed plan.price with range := plan.range }
  let peak : Option (Rate R) := plan.peak.map fun peak =>
    { Rate.fixed peak.price with window := some peak.window }
  let tier : Option (Rate R) := plan.tier.map fun tier =>
    { Rate.fixed tier.price with threshold := tier.threshold }
  let rates := base :: (peak.toList ++ tier.toList)
  { (Tariff.free id plan.broker plan.powerType : Tariff R) with
    supersedes
    minDuration := Tariff.durationOfDays plan.minDurationDays
    signupPayment := plan.signupPayment
    earlyWithdrawPayment := plan.earlyWithdrawPayment
    periodicPayment := plan.periodicPayment
    rates := rates.map fun rate => { rate with curtailable := plan.curtailable }
    regulation := plan.regulation }

end TariffPlan

def Scenario.defaultFor (scenario : Scenario R) (powerType : PowerType) : Option (TariffPlan R) :=
  let find (p : PowerType) : Option (TariffPlan R) :=
    scenario.tariffs.find? fun plan => plan.isDefault && plan.powerType == p
  (find powerType).or (find powerType.generic)

end RetailMarket
