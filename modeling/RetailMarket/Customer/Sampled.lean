import RetailMarket.Customer
import RetailMarket.Customer.SampleStream

/-!
# Sampled customers

A customer model with a daily sinusoid of usage and Gaussian noise. The curve is drawn once from a
seeded stream, which then supplies the samples of every choice.
-/

namespace RetailMarket

/-- Mean hourly usage of one member, amplitude of the daily sinusoid, and standard deviation of
the hourly noise. -/
structure UsageShape (R : Type) where
  base : R
  amplitude : R
  noise : R
  deriving Repr

structure SampledCustomer (G R : Type) where
  curve : Array R
  switchFactor : R
  source : G
  transfers : Array Transfer := #[]

namespace SampledCustomer

variable {G R : Type} [Quantity R] [SampleSource G R]

def pi : R := 3.141592653589793

/-- Gaussian noise from two uniform samples; none is drawn where there is no deviation. -/
def noise (source : G) (deviation : R) : R × G :=
  if deviation ≤ 0 then (0, source)
  else
    let (first, source) := SampleSource.next source
    let (second, source) := SampleSource.next source
    let first : R := if first < 1e-9 then 1e-9 else if 1 < first then 1 else first
    let radius := Quantity.sqrt (-2.0 * Quantity.log first)
    (radius * Quantity.cos (2.0 * pi * second) * deviation, source)

/-- Usage of the hour with a given number: the shape at that time of day, never negative, and
with the sign of the customer's power type. -/
def drawHour (sign : R) (shape : UsageShape R) (source : G) (hour : Nat) : R × G :=
  let wave := Quantity.sin (2.0 * pi * (((hour % 24 : Nat) : R) / 24.0))
  let (noise, source) := noise source shape.noise
  (sign * Quantity.larger (shape.base + shape.amplitude * wave + noise) 0, source)

def drawCurve (sign : R) (shape : UsageShape R) (source : G) (hours : Nat) : Array R × G :=
  (List.range (max hours 1)).foldl
    (fun (curve, source) hour =>
      let (kwh, source) := drawHour sign shape source hour
      (curve.push kwh, source))
    (#[], source)

def drawn (powerType : PowerType) (shape : UsageShape R) (hours : Nat) (switchFactor : R)
    (seed : UInt64) : SampledCustomer G R :=
  let (curve, source) :=
    drawCurve (Tariff.usageSign powerType) shape (SampleSource.ofSeed seed : G) hours
  { curve, switchFactor, source }

/-- Usage of one member in the hour that begins at `time`; the curve repeats. -/
def usageAt (model : SampledCustomer G R) (time : Instant) : R :=
  model.curve.getD (Int.fmod time.wholeHours model.curve.size).toNat 0

def usageFrom (model : SampledCustomer G R) (now : Instant) : List R :=
  (List.range model.curve.size).map fun (hour : Nat) =>
    model.usageAt (now.plusHours (Int.ofNat hour + 1))

instance : CustomerModel (SampledCustomer G R) R where
  profile model _ now := ({ usage := model.usageFrom now, start := now }, model)
  switchFactor model isSuperseding := if isSuperseding then 0 else model.switchFactor
  choiceSample model :=
    let (sample, source) := SampleSource.next model.source
    (sample, { model with source })
  inertiaSample model :=
    let (sample, source) := SampleSource.next model.source
    (sample, { model with source })
  shiftingInconvenience _ _ := 0
  notify model transfer := { model with transfers := model.transfers.push transfer }

end SampledCustomer

end RetailMarket
