import RetailMarket.Proofs.ExactQuantity
import RetailMarket.Evaluation.Forecast

/-!
# The cost of an hour

Over exact numbers a forecast adds up what each hour costs by itself: the usage charge, a part of
the periodic payment and the credit for regulation, which is the same in every hour.  So a forecast
may be split anywhere, and as the rate in effect does not depend on prices, it lies between the
forecasts at expected and at worst prices just as the weights do.
-/

namespace RetailMarket

/-! ## Fixed prices for variable ones -/

theorem lastGreatest?_map {α β : Type} (atMost : β → β → Bool) (f : α → β) (xs : List α) :
    lastGreatest? atMost (xs.map f) =
      (lastGreatest? (fun a b => atMost (f a) (f b)) xs).map f := by
  unfold lastGreatest?
  rw [List.foldl_map]
  change xs.foldl _ (Option.map f none) = _
  refine List.foldl_hom (Option.map f) fun best x => ?_
  cases best with
  | none => rfl
  | some b => exact (apply_ite (Option.map f) (atMost (f b) (f x) = true) (some x) (some b)).symm

def Rate.fixedAt {R : Type} (value : PriceRange R → R) (rate : Rate R) : Rate R :=
  { rate with price := rate.range.elim rate.price value, range := none }

/-- A tariff with each variable rate fixed at some price of its range. -/
def Tariff.fixedAt {R : Type} (value : PriceRange R → R) (tariff : Tariff R) : Tariff R :=
  { tariff with rates := tariff.rates.map (Rate.fixedAt value) }

theorem Tariff.rateAt_fixedAt {R : Type} [Quantity R] (value : PriceRange R → R)
    (tariff : Tariff R) (time : Instant) (kwh : R) :
    (tariff.fixedAt value).rateAt time kwh = (tariff.rateAt time kwh).map (Rate.fixedAt value) := by
  simp only [rateAt, fixedAt, List.filter_map, lastGreatest?_map]
  rfl

namespace Forecaster

/-! ## Hour by hour -/

noncomputable def credit (forecaster : Forecaster ℝ) (tariff : Tariff ℝ) : ℝ :=
  if tariff.hasRegulation then
    tariff.regulationCharge .epoch (forecaster.curtailment + forecaster.discharge)
      + tariff.regulationCharge .epoch forecaster.absorption
  else 0

noncomputable def charge (forecaster : Forecaster ℝ) (tariff : Tariff ℝ) (withPeriodic : Bool)
    (time : Instant) (kwh : ℝ) : ℝ :=
  tariff.usageChargeBy forecaster.price time (forecaster.regulated kwh)
    + if withPeriodic then tariff.periodicPayment / 24 else 0

noncomputable def hourly (forecaster : Forecaster ℝ) (tariff : Tariff ℝ) (withPeriodic : Bool)
    (time : Instant) (kwh : ℝ) : ℝ :=
  forecaster.charge tariff withPeriodic time kwh + forecaster.credit tariff

section

variable {forecaster : Forecaster ℝ} {tariff : Tariff ℝ} {withPeriodic : Bool}

theorem regulationCharge_congr (regulated : tariff.hasRegulation = true) {other : Tariff ℝ}
    (same : other.regulation = tariff.regulation) (time later : Instant) (kwh : ℝ) :
    other.regulationCharge later kwh = tariff.regulationCharge time kwh := by
  obtain ⟨rate, paid⟩ := Option.isSome_iff_exists.1 regulated
  simp only [Tariff.regulationCharge, same, paid]

theorem credit_fixedAt (value : PriceRange ℝ → ℝ) :
    forecaster.credit (tariff.fixedAt value) = forecaster.credit tariff := by
  have same : (tariff.fixedAt value).regulation = tariff.regulation := rfl
  unfold credit
  rw [show (tariff.fixedAt value).hasRegulation = tariff.hasRegulation from rfl]
  split
  next regulated =>
    rw [regulationCharge_congr regulated same .epoch, regulationCharge_congr regulated same .epoch]
  next => rfl

theorem addHour_eq (start : Instant) (sum kwh : ℝ) :
    forecaster.addHour tariff withPeriodic (start, sum) kwh =
      (start.plus hourLength,
        sum + forecaster.charge tariff withPeriodic (start.plus hourLength) kwh) := by
  unfold addHour charge
  dsimp only
  split
  · norm_num [add_assoc]
  · rw [add_zero]

theorem foldl_addHour (usage : List ℝ) (start : Instant) (sum : ℝ) :
    (usage.foldl (forecaster.addHour tariff withPeriodic) (start, sum)).2 =
      sum + (usage.foldl (forecaster.addHour tariff withPeriodic) (start, 0)).2 := by
  induction usage generalizing start sum with
  | nil => exact (add_zero sum).symm
  | cons kwh rest ih =>
      simp only [List.foldl_cons, addHour_eq]
      rw [ih, ih _ (0 + _), zero_add, add_assoc]

theorem cost_eq_foldl (usage : List ℝ) (start : Instant) :
    forecaster.cost tariff usage start withPeriodic =
      (usage.foldl (forecaster.addHour tariff withPeriodic) (start, 0)).2 +
        forecaster.credit tariff * usage.length := by
  unfold cost credit
  dsimp only
  split
  next regulated =>
    rw [regulationCharge_congr regulated rfl .epoch,
      regulationCharge_congr regulated rfl .epoch _ forecaster.absorption]
  next => rw [zero_mul, add_zero]

@[simp]
theorem cost_nil (start : Instant) : forecaster.cost tariff [] start withPeriodic = 0 := by
  simp [cost_eq_foldl]

theorem cost_cons (kwh : ℝ) (rest : List ℝ) (start : Instant) :
    forecaster.cost tariff (kwh :: rest) start withPeriodic =
      forecaster.hourly tariff withPeriodic (start.plus hourLength) kwh +
        forecaster.cost tariff rest (start.plus hourLength) withPeriodic := by
  simp only [cost_eq_foldl, hourly, List.foldl_cons, List.length_cons, addHour_eq]
  rw [foldl_addHour]
  push_cast
  ring

theorem cost_append (first rest : List ℝ) (start : Instant) :
    forecaster.cost tariff (first ++ rest) start withPeriodic =
      forecaster.cost tariff first start withPeriodic +
        forecaster.cost tariff rest (start.plusHours first.length) withPeriodic := by
  induction first generalizing start with
  | nil => simp [Instant.plusHours, Instant.plus]
  | cons kwh later ih =>
      have onward : (start.plus hourLength).plusHours later.length =
          start.plusHours (later.length + 1) := by
        simp only [Instant.plusHours, Instant.plus]
        ring_nf
      rw [List.cons_append, cost_cons, cost_cons, ih, onward, List.length_cons, add_assoc]
      push_cast
      rfl

/-! ## Weights -/

inductive Obtained {R : Type} [Quantity R] : Forecaster R → Prop
  | standard : Obtained .standard
  | setWeights {forecaster : Forecaster R} (mean worst : R) :
      Obtained forecaster → Obtained (forecaster.setWeights mean worst)
  | setRegulation {forecaster : Forecaster R} (curtailment discharge absorption : R) :
      Obtained forecaster → Obtained (forecaster.setRegulation curtailment discharge absorption)

/-- The weights of the expected and of the worst price make up the whole. -/
structure Weighs (forecaster : Forecaster ℝ) : Prop where
  mean_nonneg : 0 ≤ forecaster.mean
  worst_nonneg : 0 ≤ forecaster.worst
  sum : forecaster.mean + forecaster.worst = 1

theorem weighs_withShares (forecaster : Forecaster ℝ) {mean worst : ℝ} (first : 0 ≤ mean)
    (second : 0 ≤ worst) (positive : 0 < mean + worst) :
    (forecaster.withShares mean worst).Weighs where
  mean_nonneg := div_nonneg first positive.le
  worst_nonneg := div_nonneg second positive.le
  sum := by
    change mean / (mean + worst) + worst / (mean + worst) = 1
    rw [← add_div, div_self positive.ne']

theorem Weighs.setWeights (weighs : forecaster.Weighs) (mean worst : ℝ) :
    (forecaster.setWeights mean worst).Weighs := by
  unfold Forecaster.setWeights
  split
  next accepted =>
    obtain ⟨positive, first, second⟩ := accepted
    exact weighs_withShares forecaster (not_lt.1 first) (not_lt.1 second) positive
  next => exact weighs

theorem Obtained.weighs (obtained : forecaster.Obtained) : forecaster.Weighs := by
  induction obtained with
  | standard => exact weighs_withShares _ (by norm_num) (by norm_num) (by norm_num)
  | setWeights mean worst _ ih => exact ih.setWeights mean worst
  | setRegulation _ _ _ _ ih => exact { ih with }

/-! ## Between expected and worst prices -/

theorem Weighs.price_eq (weighs : forecaster.Weighs) (rate : Rate ℝ) :
    forecaster.price rate =
      forecaster.mean * forecaster.price (rate.fixedAt PriceRange.mean) +
        forecaster.worst * forecaster.price (rate.fixedAt PriceRange.worst) := by
  cases range : rate.range with
  | none =>
      simp only [price, Rate.weighted, Rate.fixedAt, range, Option.elim_none]
      rw [← add_mul, weighs.sum, one_mul]
  | some range => simp only [price, Rate.weighted, Rate.fixedAt, range, Option.elim_some]

theorem Weighs.usageChargeBy_eq (weighs : forecaster.Weighs) (tariff : Tariff ℝ) (time : Instant)
    (kwh : ℝ) :
    tariff.usageChargeBy forecaster.price time kwh =
      forecaster.mean * (tariff.fixedAt PriceRange.mean).usageChargeBy forecaster.price time kwh +
        forecaster.worst *
          (tariff.fixedAt PriceRange.worst).usageChargeBy forecaster.price time kwh := by
  simp only [Tariff.usageChargeBy, Tariff.rateAt_fixedAt]
  cases tariff.rateAt time kwh with
  | none => simp
  | some rate =>
      simp only [Option.map_some, Tariff.fixedAt]
      rw [weighs.price_eq rate]
      ring

theorem Weighs.hourly_eq (weighs : forecaster.Weighs) (tariff : Tariff ℝ) (withPeriodic : Bool)
    (time : Instant) (kwh : ℝ) :
    forecaster.hourly tariff withPeriodic time kwh =
      forecaster.mean *
          forecaster.hourly (tariff.fixedAt PriceRange.mean) withPeriodic time kwh +
        forecaster.worst *
          forecaster.hourly (tariff.fixedAt PriceRange.worst) withPeriodic time kwh := by
  have fixed :
      (if withPeriodic then tariff.periodicPayment / 24 else 0) + forecaster.credit tariff =
      (forecaster.mean + forecaster.worst) *
        ((if withPeriodic then tariff.periodicPayment / 24 else 0) + forecaster.credit tariff) := by
    rw [weighs.sum, one_mul]
  simp only [hourly, charge, credit_fixedAt, add_assoc]
  rw [weighs.usageChargeBy_eq, fixed]
  simp only [Tariff.fixedAt]
  ring

theorem Weighs.cost_eq (weighs : forecaster.Weighs) (tariff : Tariff ℝ) (usage : List ℝ)
    (start : Instant) (withPeriodic : Bool) :
    forecaster.cost tariff usage start withPeriodic =
      forecaster.mean *
          forecaster.cost (tariff.fixedAt PriceRange.mean) usage start withPeriodic +
        forecaster.worst *
          forecaster.cost (tariff.fixedAt PriceRange.worst) usage start withPeriodic := by
  induction usage generalizing start with
  | nil => simp
  | cons kwh rest ih =>
      rw [cost_cons, cost_cons, cost_cons, ih, weighs.hourly_eq]
      ring

/-- Whatever settings have been made or refused, a forecast may be split at any hour, and it lies
between the forecasts at expected and at worst prices as weights say that make up the whole. -/
theorem cost_splits (obtained : forecaster.Obtained) (tariff : Tariff ℝ) (start : Instant)
    (withPeriodic : Bool) (first rest : List ℝ) :
    (0 ≤ forecaster.mean ∧ 0 ≤ forecaster.worst ∧ forecaster.mean + forecaster.worst = 1) ∧
      forecaster.cost tariff (first ++ rest) start withPeriodic =
        forecaster.cost tariff first start withPeriodic +
          forecaster.cost tariff rest (start.plusHours first.length) withPeriodic ∧
      forecaster.cost tariff first start withPeriodic =
        forecaster.mean *
            forecaster.cost (tariff.fixedAt PriceRange.mean) first start withPeriodic +
          forecaster.worst *
            forecaster.cost (tariff.fixedAt PriceRange.worst) first start withPeriodic := by
  have weighs := obtained.weighs
  exact ⟨⟨weighs.mean_nonneg, weighs.worst_nonneg, weighs.sum⟩, cost_append first rest start,
    weighs.cost_eq tariff first start withPeriodic⟩

end

namespace Flexible

noncomputable def offer : Tariff ℝ :=
  { Tariff.free ⟨1⟩ "local" .interruptibleConsumption with
    periodicPayment := -2.4
    rates := [.ranging (-0.05) (-0.1) (-0.2)]
    regulation := some ⟨0.2, -0.05⟩ }

noncomputable def forecaster : Forecaster ℝ :=
  (((standard : Forecaster ℝ).setWeights 3 1).setWeights 0 0).setRegulation (-1) 0 0.5

theorem obtained_forecaster : forecaster.Obtained :=
  ((Obtained.standard.setWeights 3 1).setWeights 0 0).setRegulation (-1) 0 0.5

theorem weights_forecaster : forecaster.mean = 3 / 4 ∧ forecaster.worst = 1 / 4 := by
  norm_num [forecaster, setRegulation, setWeights, withShares]

theorem hourly_fixedAt (value : PriceRange ℝ → ℝ) (time : Instant) :
    forecaster.hourly (offer.fixedAt value) true time 10 = 9.5 * value ⟨-0.1, -0.2⟩ + 0.075 := by
  have regulated : forecaster.regulated 10 = 9.5 := by
    norm_num [Forecaster.regulated, expectedRegulation, forecaster, setRegulation,
      Quantity.larger_real]
  have selected : offer.rateAt time 9.5 = some (.ranging (-0.05) (-0.1) (-0.2)) := by
    simp [offer, Tariff.rateAt, Tariff.covers, Rate.appliesAt, Rate.ranging, Rate.fixed,
      lastGreatest?, Quantity.magnitude_real]
  have credited : forecaster.credit offer = 0.175 := by
    norm_num [credit, offer, Tariff.hasRegulation, Tariff.regulationCharge, forecaster,
      setRegulation]
  simp only [hourly, charge, credit_fixedAt, credited, regulated, Tariff.usageChargeBy,
    Tariff.rateAt_fixedAt, selected]
  norm_num [offer, Tariff.free, Tariff.fixedAt, Tariff.usageSign, PowerType.isProduction, price,
    Rate.weighted, Rate.fixedAt, Rate.ranging]
  ring

end Flexible

theorem cost_splits_refusal :
    let forecaster := Flexible.forecaster
    let offer := Flexible.offer
    (forecaster.Obtained ∧ forecaster.mean = 3 / 4 ∧ forecaster.worst = 1 / 4) ∧
      forecaster.cost offer [10] .epoch true = -1.1125 ∧
      forecaster.cost offer ([10] ++ [4, 6]) .epoch true =
        -1.1125 + forecaster.cost offer [4, 6] (Instant.epoch.plusHours 1) true := by
  intro forecaster offer
  obtain ⟨mean, worst⟩ := Flexible.weights_forecaster
  obtain ⟨-, parts, mixture⟩ :=
    cost_splits Flexible.obtained_forecaster Flexible.offer .epoch true [10] [4, 6]
  have first : forecaster.cost offer [10] .epoch true = -1.1125 := by
    rw [mixture, cost_cons, cost_cons, Flexible.hourly_fixedAt, Flexible.hourly_fixedAt, mean,
      worst]
    norm_num
  rw [first] at parts
  exact ⟨⟨Flexible.obtained_forecaster, mean, worst⟩, first, parts⟩

end Forecaster

end RetailMarket
