import Mathlib.Algebra.Ring.Periodic
import RetailMarket.Proofs.Forecasts
import RetailMarket.Proofs.Hours

/-!
# Forecasts over whole days

Prices depend on the hour of the day and usage on the place in the curve.  Where the curve is some
days long, both come back together, and a forecast from any full hour adds up the same hours.
-/

namespace RetailMarket

theorem sum_range_of_periodic {f : ℤ → ℝ} {period : ℕ}
    (repeats : Function.Periodic f period) (start : ℤ) :
    ((List.range period).map fun passed : ℕ => f (start + passed)).sum =
      ((List.range period).map fun passed : ℕ => f passed).sum := by
  -- One hour later the window has lost its first value and gained the one that is equal to it.
  have step : Function.Periodic
      (fun start : ℤ => ((List.range period).map fun passed : ℕ => f (start + passed)).sum) 1 := by
    intro start
    have front := List.sum_range_succ' (fun passed : ℕ => f (start + passed)) period
    rw [List.sum_range_succ, repeats start, Nat.cast_zero, add_zero, add_comm] at front
    have window (passed : ℕ) : start + 1 + passed = start + (passed + 1 : ℕ) := by
      push_cast
      ring
    simp only [window]
    exact (add_left_cancel front).symm
  have same := step.int_mul_eq start
  simpa using same

namespace Forecaster

variable {forecaster : Forecaster ℝ} {tariff : Tariff ℝ}

theorem hourly_congr {time later : Instant} (same : later.hourOfDay = time.hourOfDay)
    (withPeriodic : Bool) (kwh : ℝ) :
    forecaster.hourly tariff withPeriodic later kwh =
      forecaster.hourly tariff withPeriodic time kwh := by
  simp only [hourly, charge, Tariff.usageChargeBy, Tariff.rateAt, same]

theorem periodic_hourly (forecaster : Forecaster ℝ) (tariff : Tariff ℝ) {G : Type}
    {model : SampledCustomer G ℝ} (wholeDays : 24 ∣ model.curve.size) (withPeriodic : Bool) :
    Function.Periodic (fun hour : ℤ => forecaster.hourly tariff withPeriodic (.ofHours hour)
      (model.usageAt (.ofHours hour))) model.curve.size := by
  intro hour
  have sameHour : (Instant.ofHours (hour + model.curve.size)).hourOfDay =
      (Instant.ofHours hour).hourOfDay := by
    rw [Instant.hourOfDay_eq, Instant.hourOfDay_eq, Instant.clockHour_ofHours,
      Instant.clockHour_ofHours]
    omega
  dsimp only
  rw [hourly_congr sameHour, model.usageAt_ofHours, model.hourly_add_size, ← model.usageAt_ofHours]

/-- A forecast over the length of a curve of whole days is the same from every full hour. -/
theorem cost_of_whole_days {G : Type} [SampleSource G ℝ] (forecaster : Forecaster ℝ)
    (tariff : Tariff ℝ) (model : SampledCustomer G ℝ) (wholeDays : 24 ∣ model.curve.size)
    (first second : ℤ) :
    let profile (hour : ℤ) := (CustomerModel.profile model tariff (Instant.ofHours hour)).1
    forecaster.cost tariff (profile first).usage (profile first).start true =
      forecaster.cost tariff (profile second).usage (profile second).start true := by
  intro profile
  have repeats := periodic_hourly forecaster tariff wholeDays true
  have fromAnywhere (start : ℤ) :
      forecaster.cost tariff (profile start).usage (profile start).start true =
        ((List.range model.curve.size).map fun passed : ℕ =>
          forecaster.hourly tariff true (.ofHours passed)
            (model.usageAt (.ofHours passed))).sum := by
    change forecaster.cost tariff (model.usageFrom (.ofHours start)) (.ofHours start) true = _
    rw [model.usageFrom_eq, cost_map_hoursFrom, hoursFrom_eq, List.map_map,
      ← sum_range_of_periodic repeats (start + 1)]
    refine congrArg List.sum (List.map_congr_left fun passed _ => ?_)
    have hour : (Instant.ofHours start).plusHours (Int.ofNat passed + 1) =
        .ofHours (start + 1 + passed) := by
      rw [Instant.ofHours_plusHours, Int.ofNat_eq_natCast, add_assoc, add_comm 1]
    rw [Function.comp_apply, hour]
  rw [fromAnywhere first, fromAnywhere second]

noncomputable def Daily.model : SampledCustomer ExactStream ℝ :=
  { curve := (Array.range 24).map Nat.cast, switchFactor := 0, source := ⟨.ofSeed 1⟩ }

/-- From an evening before the epoch and from a morning after it the cottages' prices make the same
forecast of different profiles. -/
theorem cost_of_whole_days_evening :
    let offer := Subscription.Evening.offer
    let profile (hour : ℤ) := (CustomerModel.profile Daily.model offer (Instant.ofHours hour)).1
    24 ∣ Daily.model.curve.size ∧
      (profile (-7)).usage.head? = some 18 ∧ (profile 100).usage.head? = some 5 ∧
      standard.cost offer (profile (-7)).usage (profile (-7)).start true =
        standard.cost offer (profile 100).usage (profile 100).start true := by
  intro offer profile
  have hours : Daily.model.curve.size = 24 := by simp [Daily.model]
  have wholeDays : 24 ∣ Daily.model.curve.size := hours ▸ dvd_rfl
  have leads (hour : ℤ) : (profile hour).usage.head? =
      some (Daily.model.hourly (hour + 1)) := by
    have next : (Instant.ofHours hour).plus hourLength = .ofHours (hour + 1) :=
      Instant.ofHours_plusHours hour 1
    change (Daily.model.usageFrom (.ofHours hour)).head? = _
    rw [Daily.model.usageFrom_eq, hours, hoursFrom, List.map_cons, List.head?_cons, next,
      Daily.model.usageAt_ofHours]
  have evening : Daily.model.hourly (-6) = 18 := by
    simp [SampledCustomer.hourly, Daily.model]
  have morning : Daily.model.hourly 101 = 5 := by
    simp [SampledCustomer.hourly, Daily.model]
  refine ⟨wholeDays, ?_, ?_, ?_⟩
  · rw [leads]
    exact congrArg some evening
  · rw [leads]
    exact congrArg some morning
  · exact cost_of_whole_days .standard offer Daily.model wholeDays (-7) 100

end Forecaster

end RetailMarket
