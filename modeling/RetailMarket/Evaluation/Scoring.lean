import RetailMarket.Evaluation.Choice
import RetailMarket.Evaluation.Evaluator

/-!
# Scores

Tariffs are appraised by their forecast cost and their inconvenience, and scored by comparison with
the default tariff. An alternative that means a switch also bears the costs of switching.
-/

namespace RetailMarket

namespace Evaluator

variable {M R : Type} [Quantity R] [CustomerModel M R]

/-! ## Appraisal -/

/-- Forecast cost with the inconvenience of shifting usage, scaled to the standard length. A
state-dependent profile puts an end to reuse; an empty one costs nothing. -/
def forecastCost (e : Evaluator M R) (tariff : Tariff R) (now : Instant) : R × Evaluator M R :=
  let (profile, model) := CustomerModel.profile e.model tariff now
  let e := { e with model }
  let e := if profile.stateDependent then { e with cache := e.cache.setBypass true } else e
  if profile.usage.isEmpty then (0, e)
  else
    let e := { e with profileLength := profile.usage.length }
    let shifting := CustomerModel.shiftingInconvenience e.model tariff
    let cost := e.forecaster.cost tariff profile.usage profile.start true
    ((Quantity.replaceNaN cost + shifting) * (standardHours / (e.profileLength : R)), e)

def appraiseWith (e : Evaluator M R) (tariff : Tariff R) (inconvenience : R) (now : Instant) :
    Appraisal R × Evaluator M R :=
  match e.cache.get? tariff.id with
  | some appraisal => (appraisal, e)
  | none =>
    let (cost, e) := e.forecastCost tariff now
    let appraisal : Appraisal R := { cost, inconvenience }
    (appraisal, { e with cache := e.cache.insert tariff.id appraisal })

/-- The default tariff is appraised without inconvenience. -/
def appraiseDefault (e : Evaluator M R) (tariff : Tariff R) (now : Instant) :
    Appraisal R × Evaluator M R :=
  e.appraiseWith tariff 0 now

def appraise (e : Evaluator M R) (tariff : Tariff R) (now : Instant) :
    Appraisal R × Evaluator M R :=
  e.appraiseWith tariff (e.inconvenience tariff) now

/-! ## Scoring -/

/-- What all decisions of one evaluation share. -/
structure Comparison (R : Type) where
  candidates : List (Tariff R)
  default : Tariff R
  defaultAppraisal : Appraisal R
  inertia : R
  now : Instant

/-- Members to be decided on: where they are, whether that tariff is revoked, the tariff that
takes its place if so, and what leaving it costs. -/
structure Position (R : Type) where
  current : Tariff R
  isRevoked : Bool
  replacement : Option TariffId
  leaving : R

def pushUnique (tariffs : List (Tariff R)) (tariff : Tariff R) : List (Tariff R) :=
  if tariffs.any fun t => t.id == tariff.id then tariffs else tariffs ++ [tariff]

/-- Scores one alternative; also the signup cost, if taking it is a switch. -/
def score (e : Evaluator M R) (comparison : Comparison R) (position : Position R)
    (tariff : Tariff R) : Alternative R × Option R × Evaluator M R :=
  let (appraisal, e) := e.appraise tariff comparison.now
  let utility (cost inconvenience : R) : R :=
    Utility.constrained <| Quantity.replaceNaN <|
      Utility.normalizedDifference cost comparison.defaultAppraisal.cost
        - e.settings.inconvenienceWeight * inconvenience
  if tariff.id = position.current.id ∨ some tariff.id = position.replacement then
    (Alternative.scored tariff (utility appraisal.cost appraisal.inconvenience), none, e)
  else
    let switching := appraisal.inconvenience + e.settings.switchFactor
    let switching :=
      if tariff.broker = position.current.broker then switching
      else switching + CustomerModel.switchFactor e.model position.isRevoked
    let signup := e.signupCost tariff
    let cost := appraisal.cost + (signup + position.leaving + e.withdrawCost tariff)
    (Alternative.scored tariff (utility (Quantity.replaceNaN cost) switching), some signup, e)

/-- Scores alternatives in order and finds the largest signup bonus on offer. -/
def scoreAll (comparison : Comparison R) (position : Position R) :
    Evaluator M R → (bonus : R) → List (Tariff R) → List (Alternative R) × R × Evaluator M R
  | e, bonus, [] => ([], bonus, e)
  | e, bonus, tariff :: rest =>
    let (alternative, signup, e) := e.score comparison position tariff
    let bonus := signup.elim bonus (Quantity.larger bonus)
    let (alternatives, bonus, e) := scoreAll comparison position e bonus rest
    (alternative :: alternatives, bonus, e)

end Evaluator

end RetailMarket
