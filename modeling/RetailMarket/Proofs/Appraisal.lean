import RetailMarket.Evaluation.Scoring

/-!
# Appraisals

A cache answers with what was last inserted, unless it has been emptied since.  A tariff that is in
the cache is not appraised again; any other is forecast from a profile of the model and inserted.
-/

namespace RetailMarket

variable {M R : Type}

namespace AppraisalCache

theorem get?_insert (cache : AppraisalCache R) (id other : TariffId) (appraisal : Appraisal R) :
    (cache.insert id appraisal).get? other =
      if id = other then some appraisal else cache.get? other := by
  simp only [get?, insert, Std.HashMap.getElem?_insert, beq_iff_eq]

theorem get?_insert_self (cache : AppraisalCache R) (id : TariffId) (appraisal : Appraisal R) :
    (cache.insert id appraisal).get? id = some appraisal := by
  rw [get?_insert, if_pos rfl]

theorem get?_insert_of_get? {cache : AppraisalCache R} {id other : TariffId}
    {known : Appraisal R} (missing : cache.get? id = none) (found : cache.get? other = some known)
    (appraisal : Appraisal R) : (cache.insert id appraisal).get? other = some known := by
  rw [get?_insert, if_neg, found]
  rintro rfl
  rw [missing] at found
  cases found

theorem isBypassed_beginCycle (cache : AppraisalCache R) :
    cache.beginCycle.isBypassed = cache.isBypassed := by
  unfold beginCycle
  split <;> rfl

theorem beginCycle_of_not_bypassed {cache : AppraisalCache R} (kept : cache.isBypassed = false) :
    cache.beginCycle = cache := by
  simp [beginCycle, kept]

theorem get?_beginCycle_of_bypassed {cache : AppraisalCache R}
    (bypassed : cache.isBypassed = true) (id : TariffId) : cache.beginCycle.get? id = none := by
  simp [beginCycle, bypassed, get?]

theorem get?_of_get?_beginCycle {cache : AppraisalCache R} {id : TariffId}
    {appraisal : Appraisal R} (found : cache.beginCycle.get? id = some appraisal) :
    cache.get? id = some appraisal := by
  cases bypassed : cache.isBypassed with
  | true =>
      rw [get?_beginCycle_of_bypassed bypassed] at found
      cases found
  | false => rwa [beginCycle_of_not_bypassed bypassed] at found

end AppraisalCache

variable [Quantity R]

/-- The forecast cost of a tariff with a profile, the inconvenience of shifting usage included. -/
def Forecaster.forecast (forecaster : Forecaster R) (tariff : Tariff R)
    (profile : UsageProfile R) (shifting : R) : R :=
  if profile.usage.isEmpty then 0
  else
    (Quantity.replaceNaN (forecaster.cost tariff profile.usage profile.start true) + shifting) *
      (standardHours / (profile.usage.length : R))

namespace Evaluator

variable [CustomerModel M R]

theorem forecastCost_eq (e : Evaluator M R) (tariff : Tariff R) (now : Instant) :
    e.forecastCost tariff now =
      let profile := (CustomerModel.profile e.model tariff now).1
      let model := (CustomerModel.profile e.model tariff now).2
      (e.forecaster.forecast tariff profile (CustomerModel.shiftingInconvenience model tariff),
        { e with
          model
          cache := e.cache.setBypass (e.cache.isBypassed || profile.stateDependent)
          profileLength := if profile.usage.isEmpty then e.profileLength
            else profile.usage.length }) := by
  unfold forecastCost Forecaster.forecast
  by_cases dependent : (CustomerModel.profile e.model tariff now).1.stateDependent = true <;>
    by_cases empty : (CustomerModel.profile e.model tariff now).1.usage.isEmpty = true <;>
    simp [dependent, empty, AppraisalCache.setBypass]

theorem appraiseWith_of_get? {e : Evaluator M R} {tariff : Tariff R} {appraisal : Appraisal R}
    (found : e.cache.get? tariff.id = some appraisal) (inconvenience : R) (now : Instant) :
    e.appraiseWith tariff inconvenience now = (appraisal, e) := by
  simp only [appraiseWith, found]

theorem appraiseWith_of_missing {e : Evaluator M R} {tariff : Tariff R}
    (missing : e.cache.get? tariff.id = none) (inconvenience : R) (now : Instant) :
    e.appraiseWith tariff inconvenience now =
      let forecast := e.forecastCost tariff now
      let appraisal : Appraisal R := { cost := forecast.1, inconvenience }
      (appraisal, { forecast.2 with cache := forecast.2.cache.insert tariff.id appraisal }) := by
  simp only [appraiseWith, missing]

end Evaluator

end RetailMarket
