import RetailMarket.Scenario.Plan
import RetailMarket.Scenario.Problem

/-!
# Preset scenarios

The baseline market has a default broker, one competitor and two populations. The other presets
change it: a price war between brokers, and tariffs that are revoked during the run.
-/

namespace RetailMarket

namespace Scenario

variable {R : Type} [Quantity R]

def solarPark : CustomerPlan R :=
  { name := "solar-park", population := 40, powerType := .solarProduction,
    multiContracting := false, shape := { base := 2.0, amplitude := 2.0, noise := 0.2 } }

def standardCustomers : List (CustomerPlan R) := [.village, solarPark]

def standardTariffs : List (TariffPlan R) :=
  [{ TariffPlan.named "default-consumption" "default" .consumption (-0.15) with isDefault := true },
    { TariffPlan.named "default-production" "default" .production 0.02 with isDefault := true },
    { TariffPlan.named "alpha" "alpha" .consumption (-0.12) with
      peak := some { window := ⟨17, 21⟩, price := -0.2 }
      minDurationDays := 3.0
      earlyWithdrawPayment := -2.0 },
    { TariffPlan.named "alpha-solar" "alpha" .solarProduction 0.035 with publishCycle := 1 }]

def baseline : Scenario R :=
  { run := .standard, choice := .standard, weights := .standard, regulation := .none,
    control := .none, prices := .standard, customers := standardCustomers,
    tariffs := standardTariffs }

def alphaRevokedAt (cycle : Nat) (further : List (TariffPlan R)) : List (TariffPlan R) :=
  let revoked (plan : TariffPlan R) : TariffPlan R :=
    if plan.key = "alpha" then { plan with revokeCycle := some cycle } else plan
  (standardTariffs.map revoked).append further

def alphaSuccessor (price : R) (cycle : Nat) : TariffPlan R :=
  { TariffPlan.named "alpha-2" "alpha" .consumption price with
    publishCycle := cycle
    supersedes := some "alpha" }

def beta : TariffPlan R :=
  { TariffPlan.named "beta" "beta" .consumption (-0.11) with
    publishCycle := 2
    signupPayment := 1
    earlyWithdrawPayment := -5.0
    minDurationDays := 7.0 }

def gamma : TariffPlan R :=
  { TariffPlan.named "gamma" "gamma" .consumption (-0.08) with
    range := some { mean := -0.12, worst := -0.3 }
    revokeCycle := some 5 }

def gammaFlex : TariffPlan R :=
  { TariffPlan.named "gamma-flex" "gamma" .interruptibleConsumption (-0.1) with
    curtailable := 0.3
    regulation := some { up := 0.05, down := -0.01 } }

def factory : CustomerPlan R :=
  { name := "factory", population := 12, powerType := .interruptibleConsumption,
    multiContracting := false, shape := { base := 40.0, amplitude := 10.0, noise := 1 } }

/-- A second broker undercuts with a signup bonus, and the first answers with a superseding
tariff. -/
def priceWar : Scenario R :=
  { (baseline : Scenario R) with
    run := { (RunSettings.standard : RunSettings R) with cycles := 10 }
    choice := { (ChoiceSettings.standard : ChoiceSettings R) with chunkSize := 5 }
    tariffs := alphaRevokedAt 5 [beta, alphaSuccessor (-0.1) 5] }

/-- Tariffs are withdrawn during the run, one with a successor and one without, while a factory is
under control. -/
def revocation : Scenario R :=
  { (baseline : Scenario R) with
    run := { (RunSettings.standard : RunSettings R) with cycles := 8 }
    control := { (ControlSettings.none : ControlSettings R) with ratio := 0.5, balancingShare := 0.2 }
    customers := [.village, solarPark, factory]
    tariffs := alphaRevokedAt 3 [alphaSuccessor (-0.125) 3, gamma, gammaFlex] }

def ofPreset (name : String) : Except Problem (Scenario R) :=
  if name = "baseline" then .ok baseline
  else if name = "price_war" then .ok priceWar
  else if name = "revocation" then .ok revocation
  else .error ⟨"preset", .unknownPreset name⟩

end Scenario

end RetailMarket
