import RetailMarket.Proofs.Charges
import RetailMarket.Proofs.HourlyCost
import RetailMarket.Customer.Sampled

/-!
# Forecasts and bills

A forecast prices the usage of one member, a bill that of all committed members.  Both take the
hours one after another, from one hour after the start.  A bill is what the forecast makes of the
usage of all members, and it is as many forecasts as there are members where the rate in effect
for all of them is the one for each, as it is without tiers.
-/

namespace RetailMarket

def hoursFrom (start : Instant) : Nat → List Instant
  | 0 => []
  | count + 1 => start.plus hourLength :: hoursFrom (start.plus hourLength) count

theorem length_hoursFrom (start : Instant) (count : Nat) :
    (hoursFrom start count).length = count := by
  induction count generalizing start with
  | zero => rfl
  | succ count ih => simp [hoursFrom, ih]

theorem hoursFrom_eq (start : Instant) (count : Nat) :
    hoursFrom start count =
      (List.range count).map fun (hour : Nat) => start.plusHours (Int.ofNat hour + 1) := by
  induction count generalizing start with
  | zero => rfl
  | succ count ih =>
      have next (hour : Nat) : (start.plus hourLength).plusHours (Int.ofNat hour + 1) =
          start.plusHours (Int.ofNat (hour + 1) + 1) := by
        simp only [Instant.plusHours, Instant.plus, Instant.mk.injEq, Int.ofNat_eq_natCast]
        push_cast
        ring
      have first : start.plus hourLength = start.plusHours (Int.ofNat 0 + 1) := by
        simp [Instant.plusHours]
      rw [List.range_succ_eq_map, List.map_cons, List.map_map, hoursFrom, ih, ← first]
      congr 1
      exact List.map_congr_left fun hour _ => next hour

theorem SampledCustomer.usageFrom_eq {G R : Type} [Quantity R] (model : SampledCustomer G R)
    (now : Instant) :
    model.usageFrom now = (hoursFrom now model.curve.size).map model.usageAt := by
  rw [hoursFrom_eq, List.map_map]
  rfl

/-! ## Forecasts -/

namespace Forecaster

variable {forecaster : Forecaster ℝ} {tariff : Tariff ℝ}

theorem cost_map_hoursFrom (withPeriodic : Bool) (usage : Instant → ℝ) (count : Nat)
    (start : Instant) :
    forecaster.cost tariff ((hoursFrom start count).map usage) start withPeriodic =
      ((hoursFrom start count).map fun time =>
        forecaster.hourly tariff withPeriodic time (usage time)).sum := by
  induction count generalizing start with
  | zero => exact cost_nil start
  | succ count ih =>
      simp only [hoursFrom, List.map_cons, List.sum_cons]
      rw [cost_cons, ih]

/-- Curtailment, discharge and absorption are all expected to be zero. -/
def ExpectsNoControl (forecaster : Forecaster ℝ) : Prop :=
  forecaster.curtailment = 0 ∧ forecaster.discharge = 0 ∧ forecaster.absorption = 0

theorem expectsNoControl_standard : (standard : Forecaster ℝ).ExpectsNoControl :=
  ⟨rfl, rfl, rfl⟩

theorem ExpectsNoControl.regulated (calm : forecaster.ExpectsNoControl) (kwh : ℝ) :
    forecaster.regulated kwh = kwh := by
  obtain ⟨curtailment, discharge, absorption⟩ := calm
  unfold Forecaster.regulated expectedRegulation
  split
  next consumed =>
    rw [curtailment, discharge, absorption, Quantity.larger_real, add_zero, add_zero, add_zero]
    exact max_eq_left consumed.le
  · rfl

theorem ExpectsNoControl.usageChargeBy (calm : forecaster.ExpectsNoControl)
    (fixedPrice : tariff.isVariable = false) (time : Instant) (kwh : ℝ) :
    tariff.usageChargeBy forecaster.price time (forecaster.regulated kwh) =
      tariff.usageCharge time kwh := by
  rw [calm.regulated]
  refine Tariff.usageChargeBy_congr fun rate listed => ?_
  simp only [price, Rate.weighted, Rate.settled, Tariff.range_eq_none fixedPrice listed]

theorem ExpectsNoControl.hourly (calm : forecaster.ExpectsNoControl)
    (fixedPrice : tariff.isVariable = false) (withPeriodic : Bool) (time : Instant) (kwh : ℝ) :
    forecaster.hourly tariff withPeriodic time kwh =
      tariff.usageCharge time kwh + if withPeriodic then tariff.periodicPayment / 24 else 0 := by
  have uncredited : forecaster.credit tariff = 0 := by
    obtain ⟨curtailment, discharge, absorption⟩ := calm
    unfold credit
    split
    next regulated =>
      obtain ⟨rate, paid⟩ := Option.isSome_iff_exists.1 regulated
      simp [Tariff.regulationCharge, paid, curtailment, discharge, absorption]
    next => rfl
  rw [Forecaster.hourly, charge, calm.usageChargeBy fixedPrice, uncredited, add_zero]

theorem ExpectsNoControl.cost (calm : forecaster.ExpectsNoControl)
    (fixedPrice : tariff.isVariable = false) (withPeriodic : Bool) (usage : Instant → ℝ)
    (count : Nat) (start : Instant) :
    forecaster.cost tariff ((hoursFrom start count).map usage) start withPeriodic =
      ((hoursFrom start count).map fun time => tariff.usageCharge time (usage time)).sum +
        if withPeriodic then (count : ℝ) * (tariff.periodicPayment / 24) else 0 := by
  simp only [cost_map_hoursFrom, calm.hourly fixedPrice]
  rw [List.sum_map_add, List.map_const', List.sum_replicate, length_hoursFrom, nsmul_eq_mul,
    mul_ite, mul_zero]

end Forecaster

/-! ## Bills -/

namespace Subscription

def billAt {R : Type} [Quantity R] (usage : Instant → R) (subscription : Subscription R) :
    List Instant → List (Posting R)
  | [] => []
  | time :: later =>
    let billed := subscription.usePower (usage time) time
    billed.2 ++ billAt usage billed.1 later

theorem credit_billAt (subscription : Subscription ℝ) {usage : Instant → ℝ}
    {times : List Instant} (idle : subscription.pendingRatio = 0)
    (spared : ∀ time ∈ times, subscription.tariff.hasRegulation = true ∨
      0 ≤ subscription.tariff.maxUpRegulation time (usage time)) :
    credit (subscription.billAt usage times) =
      -((times.map fun time => subscription.tariff.usageCharge time (usage time)).sum +
        (times.length : ℝ) *
          ((subscription.committed : ℝ) * (subscription.tariff.periodicPayment / 24))) := by
  induction times generalizing subscription with
  | nil => simp [billAt]
  | cons time later ih =>
      obtain ⟨capacity, billed⟩ := usePower_of_idle idle (spared time List.mem_cons_self)
      -- Billing leaves the tariff and the members as they are and asks for no control.
      have rest := ih
        { subscription with pendingRatio := 0, capacity, regulation := 0, billedKwh := usage time }
        rfl fun other listed => spared other (List.mem_cons_of_mem time listed)
      simp only [billAt, billed, credit_append, credit_cons, credit_periodicPostings, rest, posting,
        List.map_cons, List.sum_cons, List.length_cons]
      push_cast
      ring

theorem sum_usageCharge_mul {tariff : Tariff ℝ} {factor : ℝ} {usage : Instant → ℝ}
    {times : List Instant}
    (same : ∀ time ∈ times,
      tariff.rateAt time (factor * usage time) = tariff.rateAt time (usage time)) :
    (times.map fun time => tariff.usageCharge time (factor * usage time)).sum =
      factor * (times.map fun time => tariff.usageCharge time (usage time)).sum := by
  rw [← List.sum_map_mul_left]
  exact congrArg List.sum (List.map_congr_left fun time listed =>
    Tariff.usageChargeBy_mul Rate.settled (same time listed))

/-- Without control, and where no negative usage can be curtailed, the bill for a population is the
forecast for the usage of all members and their periodic payments.  It is the forecast for each
member as often as the same rate is in effect for all of them as for each. -/
theorem billed_as_forecast {G : Type} [SampleSource G ℝ] (subscription : Subscription ℝ)
    (model : SampledCustomer G ℝ) (forecaster : Forecaster ℝ) (now : Instant)
    (idle : subscription.pendingRatio = 0)
    (calm : forecaster.ExpectsNoControl)
    (fixedPrice : subscription.tariff.isVariable = false)
    (shares : ∀ rate ∈ subscription.tariff.rates, 0 ≤ rate.curtailable)
    (spared : subscription.tariff.hasRegulation = true ∨
      ∀ time ∈ hoursFrom now model.curve.size, 0 ≤ model.usageAt time ∨
        subscription.tariff.maxUpRegulation time
          ((subscription.committed : ℝ) * model.usageAt time) = 0) :
    let tariff := subscription.tariff
    let members : ℝ := subscription.committed
    let hours := hoursFrom now model.curve.size
    let profile := (CustomerModel.profile model tariff now).1
    let billed := credit (subscription.billAt (fun time => members * model.usageAt time) hours)
    billed =
        -(forecaster.cost tariff (profile.usage.map (members * ·)) profile.start false) -
          members * ((profile.usage.length : ℝ) * (tariff.periodicPayment / 24)) ∧
      ((tariff.isTiered = false ∨ subscription.committed = 1 ∨
          ∀ time ∈ hours, tariff.rateAt time (members * model.usageAt time) =
            tariff.rateAt time (model.usageAt time)) →
        billed = -(members * forecaster.cost tariff profile.usage profile.start true)) := by
  intro tariff members hours profile billed
  have usage : profile.usage = hours.map model.usageAt := model.usageFrom_eq now
  have count : profile.usage.length = model.curve.size := by
    rw [usage, List.length_map, length_hoursFrom]
  have bill : billed = _ := credit_billAt subscription idle fun time listed => by
    refine spared.imp_right fun calm => ?_
    rcases calm time listed with consumed | steady
    · exact Tariff.maxUpRegulation_nonneg shares (mul_nonneg (Nat.cast_nonneg _) consumed)
    · exact steady.ge
  rw [length_hoursFrom] at bill
  constructor
  · have forecast := calm.cost fixedPrice false (fun time => members * model.usageAt time)
      model.curve.size now
    have scaled : profile.usage.map (members * ·) =
        hours.map fun time => members * model.usageAt time := by
      rw [usage, List.map_map]
      rfl
    rw [bill, scaled, count, show forecaster.cost tariff _ profile.start false = _ from forecast]
    simp only [Bool.false_eq_true, if_false]
    ring
  · intro alike
    have same : ∀ time ∈ hours, tariff.rateAt time (members * model.usageAt time) =
        tariff.rateAt time (model.usageAt time) := by
      rcases alike with untiered | single | same
      · exact fun time _ => Tariff.rateAt_of_untiered untiered time _ _
      · intro time _
        rw [show members = 1 from by simp [members, single], one_mul]
      · exact same
    have forecast := calm.cost fixedPrice true model.usageAt model.curve.size now
    rw [bill, usage, show forecaster.cost tariff _ profile.start true = _ from forecast,
      sum_usageCharge_mul same, if_pos rfl]
    ring

/-! ### An evening -/

namespace Evening

def cottages : Customer :=
  { id := ⟨1⟩, name := "cottages", population := 10, powerType := .interruptibleConsumption }

/-- Dearer from 17 to 20 hours, and a payment of 1.2 a day.  Half of the usage may be curtailed. -/
noncomputable def offer : Tariff ℝ :=
  { Tariff.free ⟨1⟩ "bob" .interruptibleConsumption with
    periodicPayment := -1.2
    rates :=
      [{ Rate.fixed (-0.1) with curtailable := 0.5 },
        { Rate.fixed (-0.3) with window := some ⟨17, 20⟩, curtailable := 0.5 }] }

noncomputable def contract : Subscription ℝ :=
  { Subscription.opened cottages offer with committed := 10 }

noncomputable def model : SampledCustomer ExactStream ℝ :=
  { curve := #[1, 2], switchFactor := 0, source := ⟨.ofSeed 1⟩ }

theorem usageCharge_offer (time : Instant) (kwh : ℝ) :
    offer.usageCharge time kwh =
      kwh * if 17 ≤ time.hourOfDay ∧ time.hourOfDay < 20 then -0.3 else -0.1 := by
  by_cases peak : 17 ≤ time.hourOfDay ∧ time.hourOfDay < 20
  all_goals
    simp [offer, Tariff.free, Tariff.usageCharge, Tariff.usageChargeBy, Tariff.rateAt,
      Tariff.covers, Rate.appliesAt, Rate.fixed, DailyWindow.contains, lastGreatest?,
      Quantity.magnitude_real, Quantity.totalLE, peak, Tariff.usageSign, PowerType.isProduction,
      Rate.settled]

theorem usageAt_model :
    model.usageAt ((Instant.ofHours 15).plus hourLength) = 1 ∧
      model.usageAt (((Instant.ofHours 15).plus hourLength).plus hourLength) = 2 :=
  ⟨rfl, rfl⟩

theorem hourOfDay_next :
    ((Instant.ofHours 15).plus hourLength).hourOfDay = 16 ∧
      (((Instant.ofHours 15).plus hourLength).plus hourLength).hourOfDay = 17 := by
  decide

end Evening

/-- Ten cottages use 1 and 2 kilowatt hours each, the second hour at the higher price. -/
theorem billed_as_forecast_evening :
    let start := Instant.ofHours 15
    let profile := (CustomerModel.profile Evening.model Evening.offer start).1
    credit (Evening.contract.billAt (fun time => (10 : ℕ) * Evening.model.usageAt time)
        (hoursFrom start 2)) = 8 ∧
      Forecaster.standard.cost Evening.offer profile.usage profile.start true = -0.8 := by
  intro start profile
  have calm := Forecaster.expectsNoControl_standard
  have fixedPrice : Evening.offer.isVariable = false := rfl
  have untiered : Evening.offer.isTiered = false := by
    simp [Evening.offer, Tariff.isTiered, Rate.fixed]
  have shares : ∀ rate ∈ Evening.offer.rates, 0 ≤ rate.curtailable := by
    norm_num [Evening.offer, Rate.fixed]
  have consumed : ∀ time ∈ hoursFrom start 2, 0 ≤ Evening.model.usageAt time := by
    simp [hoursFrom, start, Evening.usageAt_model]
  have periodic : Evening.offer.periodicPayment = -1.2 := rfl
  have forecast : Forecaster.standard.cost Evening.offer profile.usage start true = -0.8 := by
    rw [show profile.usage = (hoursFrom start 2).map Evening.model.usageAt from
      Evening.model.usageFrom_eq start, calm.cost fixedPrice]
    simp only [hoursFrom, start, Evening.usageCharge_offer, Evening.usageAt_model,
      Evening.hourOfDay_next, periodic, List.map_cons, List.map_nil, List.sum_cons, List.sum_nil]
    norm_num
  have billed := (billed_as_forecast Evening.contract Evening.model .standard start rfl calm
    fixedPrice shares (.inr fun time listed => .inl (consumed time listed))).2 (.inl untiered)
  refine ⟨?_, forecast⟩
  calc credit _ = -((10 : ℕ) * Forecaster.standard.cost Evening.offer profile.usage start true) :=
        billed
    _ = 8 := by rw [forecast]; norm_num

/-! ### A village and a battery -/

namespace Village

def people : Customer :=
  { id := ⟨1⟩, name := "village", population := 2, powerType := .consumption }

noncomputable def offer : Tariff ℝ :=
  { Tariff.free ⟨1⟩ "local" .consumption with
    rates := [.fixed (-1), { Rate.fixed (-2) with threshold := 2 }] }

noncomputable def contract : Subscription ℝ :=
  { Subscription.opened people offer with committed := 2 }

noncomputable def model : SampledCustomer ExactStream ℝ :=
  { curve := #[1], switchFactor := 0, source := ⟨.ofSeed 1⟩ }

theorem usageCharge_offer (time : Instant) (kwh : ℝ) :
    offer.usageCharge time kwh = kwh * if 2 ≤ |kwh| then -2 else -1 := by
  by_cases tier : 2 ≤ |kwh|
  all_goals
    simp [offer, Tariff.free, Tariff.usageCharge, Tariff.usageChargeBy, Tariff.rateAt,
      Tariff.covers, Rate.appliesAt, Rate.fixed, lastGreatest?, Quantity.magnitude_real,
      Quantity.totalLE, tier, Tariff.usageSign, PowerType.isProduction, Rate.settled]

theorem usageAt_model (time : Instant) : model.usageAt time = 1 := by
  simp [model, SampledCustomer.usageAt]

theorem bill : credit (contract.billAt (fun time => (2 : ℕ) * model.usageAt time)
    (hoursFrom .epoch 1)) = 4 := by
  have free : contract.tariff.periodicPayment = 0 := rfl
  rw [credit_billAt contract rfl fun time _ => .inr (Tariff.maxUpRegulation_of_steady rfl).ge, free,
    show contract.tariff = offer from rfl]
  simp only [usageCharge_offer, usageAt_model, hoursFrom, List.map_cons, List.map_nil,
    List.sum_cons, List.sum_nil]
  norm_num

theorem forecast : Forecaster.standard.cost offer (model.usageFrom .epoch) .epoch true = -1 := by
  have free : offer.periodicPayment = 0 := rfl
  rw [model.usageFrom_eq, Forecaster.expectsNoControl_standard.cost rfl, free]
  simp only [usageCharge_offer, usageAt_model]
  norm_num [model, hoursFrom]

end Village

namespace Battery

def owner : Customer :=
  { id := ⟨1⟩, name := "battery", population := 1, powerType := .batteryStorage }

noncomputable def offer : Tariff ℝ :=
  { Tariff.free ⟨1⟩ "local" .batteryStorage with
    rates := [{ Rate.fixed (-1) with curtailable := 0.5 }] }

noncomputable def contract : Subscription ℝ :=
  { Subscription.opened owner offer with committed := 1 }

noncomputable def model : SampledCustomer ExactStream ℝ :=
  { curve := #[-1], switchFactor := 0, source := ⟨.ofSeed 1⟩ }

theorem rateAt_offer (time : Instant) (kwh : ℝ) :
    offer.rateAt time kwh = some { Rate.fixed (-1) with curtailable := 0.5 } := by
  simp [offer, Tariff.rateAt, Tariff.covers, Rate.appliesAt, Rate.fixed, lastGreatest?,
    Quantity.magnitude_real]

theorem usageCharge_offer (time : Instant) (kwh : ℝ) : offer.usageCharge time kwh = -kwh := by
  simp only [Tariff.usageCharge, Tariff.usageChargeBy, rateAt_offer]
  simp [offer, Tariff.free, Tariff.usageSign, PowerType.isProduction, Rate.settled, Rate.fixed]

theorem usageAt_model (time : Instant) : model.usageAt time = -1 := by
  simp [model, SampledCustomer.usageAt]

theorem usePower_contract (time : Instant) :
    (contract.usePower (-1) time).2 = [contract.posting .produce 1 0.5 (-0.5)] := by
  have most : contract.tariff.maxUpRegulation time (-1) = -0.5 := by
    have interruptible : offer.powerType.isInterruptible = true := rfl
    simp only [Tariff.maxUpRegulation, show contract.tariff = offer from rfl, rateAt_offer,
      interruptible, if_true]
    norm_num
  have regulated : (contract.economicRegulation (-1) time).1 = -0.5 := by
    have unregulated : contract.tariff.hasRegulation = false := rfl
    have idle : contract.pendingRatio = 0 := rfl
    rw [economicRegulation_of_none idle, unregulated, most]
    norm_num
  have free : offer.periodicPayment = 0 := rfl
  have members : contract.committed = 1 := rfl
  simp only [usePower, regulated, show contract.tariff = offer from rfl, usageCharge_offer, free,
    members]
  norm_num

theorem bill : credit (contract.billAt (fun time => (1 : ℕ) * model.usageAt time)
    (hoursFrom .epoch 1)) = -0.5 := by
  simp [hoursFrom, billAt, usageAt_model, usePower_contract, posting]

theorem forecast : Forecaster.standard.cost offer (model.usageFrom .epoch) .epoch true = 1 := by
  have free : offer.periodicPayment = 0 := rfl
  rw [model.usageFrom_eq, Forecaster.expectsNoControl_standard.cost rfl, free]
  simp only [usageCharge_offer, usageAt_model]
  norm_num [model, hoursFrom]

end Battery

/-- Bills and forecasts part where the members reach a tier together that none of them reaches, and
where a negative usage is curtailed without being asked for. -/
theorem bills_apart_from_forecasts :
    let village := (CustomerModel.profile Village.model Village.offer .epoch).1
    let battery := (CustomerModel.profile Battery.model Battery.offer .epoch).1
    (Forecaster.standard : Forecaster ℝ).ExpectsNoControl ∧
      Village.contract.pendingRatio = 0 ∧ Battery.contract.pendingRatio = 0 ∧
      (∀ offer ∈ [Village.offer, Battery.offer], offer.isVariable = false ∧
        ∀ rate ∈ offer.rates, 0 ≤ rate.curtailable ∧ rate.curtailable ≤ 1) ∧
      credit (Village.contract.billAt (fun time => (2 : ℕ) * Village.model.usageAt time)
          (hoursFrom .epoch 1)) ≠
        -((2 : ℕ) *
          Forecaster.standard.cost Village.offer village.usage village.start true) ∧
      credit (Battery.contract.billAt (fun time => (1 : ℕ) * Battery.model.usageAt time)
          (hoursFrom .epoch 1)) ≠
        -((1 : ℕ) *
          Forecaster.standard.cost Battery.offer battery.usage battery.start true) := by
  intro village battery
  refine ⟨Forecaster.expectsNoControl_standard, rfl, rfl, ?_, ?_, ?_⟩
  · intro offer listed
    rcases List.mem_pair.1 listed with rfl | rfl
    · exact ⟨rfl, by simp [Village.offer, Rate.fixed]⟩
    · exact ⟨rfl, by norm_num [Battery.offer, Rate.fixed]⟩
  · have forecast : Forecaster.standard.cost Village.offer village.usage village.start true = -1 :=
      Village.forecast
    rw [Village.bill, forecast]
    norm_num
  · have forecast : Forecaster.standard.cost Battery.offer battery.usage battery.start true = 1 :=
      Battery.forecast
    rw [Battery.bill, forecast]
    norm_num

end Subscription

end RetailMarket
