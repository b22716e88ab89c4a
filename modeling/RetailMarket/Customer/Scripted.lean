import RetailMarket.Customer

/-!
# Scripted customers

A customer model that answers from a script: given profiles, given samples played in a circle and
given factors. It records what it was asked, which makes every decision reproducible.
-/

namespace RetailMarket

/-- Samples played in a circle; without any, every sample is one half. -/
structure SampleReel (R : Type) where
  samples : Array R := #[]
  drawn : Nat := 0

namespace SampleReel

variable {R : Type} [Quantity R]

def draw (reel : SampleReel R) : R × SampleReel R :=
  (reel.samples.getD (reel.drawn % reel.samples.size) 0.5, { reel with drawn := reel.drawn + 1 })

end SampleReel

structure ScriptedCustomer (R : Type) where
  profile : List R
  profilesByTariff : List (TariffId × List R) := []
  stateDependent : Bool := false
  choice : SampleReel R := {}
  inertia : SampleReel R := {}
  switchFactor : R
  switchFactorSuperseding : R
  shifting : List (TariffId × R) := []
  requests : Array TariffId := #[]
  transfers : Array Transfer := #[]

namespace ScriptedCustomer

variable {R : Type} [Quantity R]

def standard : ScriptedCustomer R :=
  { profile := [1, 2.0], switchFactor := 0.05, switchFactorSuperseding := 0 }

def usageUnder (model : ScriptedCustomer R) (id : TariffId) : List R :=
  (model.profilesByTariff.lookup id).getD model.profile

instance : CustomerModel (ScriptedCustomer R) R where
  profile model tariff now :=
    ({ usage := model.usageUnder tariff.id, start := now, stateDependent := model.stateDependent },
      { model with requests := model.requests.push tariff.id })
  switchFactor model isSuperseding :=
    if isSuperseding then model.switchFactorSuperseding else model.switchFactor
  choiceSample model :=
    let (sample, choice) := model.choice.draw
    (sample, { model with choice })
  inertiaSample model :=
    let (sample, inertia) := model.inertia.draw
    (sample, { model with inertia })
  shiftingInconvenience model tariff := (model.shifting.lookup tariff.id).getD 0
  notify model transfer := { model with transfers := model.transfers.push transfer }

end ScriptedCustomer

end RetailMarket
