import RetailMarket.Proofs.Capacity
import RetailMarket.Subscription.Contract

/-!
# Exact charges

With exact quantities a charge is proportional to the energy as long as the same rate is in effect.
A usage that no control is pending for is billed as it is, unless the tariff curtails a negative
usage by itself.
-/

namespace RetailMarket

theorem mem_of_lastGreatest? {α : Type} {atMost : α → α → Bool} {xs : List α} {x : α}
    (found : lastGreatest? atMost xs = some x) : x ∈ xs := by
  have listed : ∀ y ∈ lastGreatest? atMost xs, y ∈ xs := by
    unfold lastGreatest?
    refine List.foldlRecOn (motive := fun best => ∀ y ∈ best, y ∈ xs) xs _ nofun ?_
    intro best kept y member
    cases best with
    | none =>
        rintro _ ⟨⟩
        exact member
    | some b =>
        by_cases higher : atMost b y = true
        · simp only [higher, if_true]
          rintro _ ⟨⟩
          exact member
        · simp only [higher, Bool.false_eq_true, if_false]
          exact kept
  exact listed x found

/-! ## Rates in effect -/

namespace Tariff

section

variable {R : Type} [Quantity R] {tariff : Tariff R} {time : Instant} {kwh : R}

theorem mem_of_rateAt {rate : Rate R} (found : tariff.rateAt time kwh = some rate) :
    rate ∈ tariff.rates :=
  List.mem_of_mem_filter (mem_of_lastGreatest? found)

theorem usageChargeBy_congr {value other : Rate R → R}
    (same : ∀ rate ∈ tariff.rates, value rate = other rate) :
    tariff.usageChargeBy value time kwh = tariff.usageChargeBy other time kwh := by
  unfold usageChargeBy
  split
  · rfl
  next rate found => rw [same rate (mem_of_rateAt found)]

omit [Quantity R] in
theorem range_eq_none (fixedPrice : tariff.isVariable = false) {rate : Rate R}
    (listed : rate ∈ tariff.rates) : rate.range = none := by
  simpa [Rate.isFixed] using List.any_eq_false.1 fixedPrice rate listed

end

variable {tariff : Tariff ℝ} {time : Instant} {kwh : ℝ}

theorem rateAt_of_untiered (untiered : tariff.isTiered = false) (time : Instant)
    (kwh other : ℝ) :
    tariff.rateAt time kwh = tariff.rateAt time other := by
  have reached (rate : Rate ℝ) (listed : rate ∈ tariff.rates) (kwh : ℝ) :
      rate.threshold ≤ Quantity.magnitude kwh := by
    have below : rate.threshold ≤ 0 := by
      simpa using List.any_eq_false.1 untiered rate listed
    rw [Quantity.magnitude_real]
    exact below.trans (abs_nonneg kwh)
  have covered (rate : Rate ℝ) (listed : rate ∈ tariff.rates) :
      covers time.hourOfDay kwh rate = covers time.hourOfDay other rate := by
    simp only [covers, reached rate listed]
  simp only [rateAt, List.filter_congr covered]

theorem usageChargeBy_mul (value : Rate ℝ → ℝ) {factor : ℝ}
    (same : tariff.rateAt time (factor * kwh) = tariff.rateAt time kwh) :
    tariff.usageChargeBy value time (factor * kwh) =
      factor * tariff.usageChargeBy value time kwh := by
  unfold usageChargeBy
  rw [same]
  split
  · exact (mul_zero factor).symm
  · ring

theorem usageCharge_of_untiered (untiered : tariff.isTiered = false) (time : Instant) (kwh : ℝ) :
    tariff.usageCharge time kwh = kwh * tariff.usageCharge time 1 := by
  have unit := usageChargeBy_mul Rate.settled (rateAt_of_untiered untiered time (kwh * 1) 1)
  rwa [mul_one] at unit

theorem maxUpRegulation_of_steady (steady : tariff.isInterruptible = false) :
    tariff.maxUpRegulation time kwh = 0 := by
  unfold maxUpRegulation
  split
  next interruptible =>
    split
    · rfl
    next rate found =>
      have shares : tariff.rates.any (fun rate => !(rate.curtailable == 0)) = false := by
        simpa [isInterruptible, interruptible] using steady
      have none : rate.curtailable = 0 := by
        simpa using List.any_eq_false.1 shares rate (mem_of_rateAt found)
      rw [none]
      exact mul_zero kwh
  · rfl

theorem maxUpRegulation_nonneg (shares : ∀ rate ∈ tariff.rates, 0 ≤ rate.curtailable)
    (consumed : 0 ≤ kwh) : 0 ≤ tariff.maxUpRegulation time kwh := by
  unfold maxUpRegulation
  split
  · split
    · exact le_rfl
    next rate found => exact mul_nonneg consumed (shares rate (mem_of_rateAt found))
  · exact le_rfl

theorem maxUpRegulation_le {share : ℝ}
    (shares : ∀ rate ∈ tariff.rates, 0 ≤ rate.curtailable ∧ rate.curtailable ≤ share)
    (positive : 0 ≤ share) (time : Instant) (kwh : ℝ) :
    tariff.maxUpRegulation time kwh ≤ share * max kwh 0 := by
  have most : 0 ≤ share * max kwh 0 := mul_nonneg positive (le_max_right kwh 0)
  unfold maxUpRegulation
  split
  · split
    · exact most
    next rate found =>
      obtain ⟨least, part⟩ := shares rate (mem_of_rateAt found)
      calc kwh * rate.curtailable ≤ max kwh 0 * rate.curtailable := by gcongr; exact le_max_left _ _
        _ ≤ max kwh 0 * share := by gcongr
        _ = share * max kwh 0 := mul_comm _ _
  · exact most

end Tariff

/-! ## Usage without control -/

noncomputable def credit (postings : List (Posting ℝ)) : ℝ :=
  (postings.map fun posting => posting.charge).sum

@[simp]
theorem credit_nil : credit [] = 0 := rfl

@[simp]
theorem credit_cons (posting : Posting ℝ) (rest : List (Posting ℝ)) :
    credit (posting :: rest) = posting.charge + credit rest := by
  simp [credit]

@[simp]
theorem credit_append (postings rest : List (Posting ℝ)) :
    credit (postings ++ rest) = credit postings + credit rest := by
  simp [credit]

namespace Subscription

variable {subscription : Subscription ℝ} {kwh : ℝ} {now : Instant}

theorem economicRegulation_of_unregulated (unregulated : subscription.tariff.hasRegulation = false)
    (kwh : ℝ) (now : Instant) :
    let ceiling := subscription.tariff.maxUpRegulation now kwh
    let taken := min (kwh * subscription.pendingRatio) ceiling
    subscription.economicRegulation kwh now =
      (taken, { subscription.capacity with up := RegulationCapacity.snap (ceiling - taken) }) := by
  intro ceiling taken
  have accepted := subscription.capacity.setUp?_of_nonneg
    (sub_nonneg.2 (min_le_right (kwh * subscription.pendingRatio) ceiling))
  simp only [economicRegulation, unregulated, Bool.false_eq_true, if_false,
    Quantity.smaller_real, RegulationCapacity.setUp]
  rw [accepted, Option.getD_some]

theorem economicRegulation_of_none (idle : subscription.pendingRatio = 0) (kwh : ℝ)
    (now : Instant) :
    (subscription.economicRegulation kwh now).1 =
      if subscription.tariff.hasRegulation then 0
      else min 0 (subscription.tariff.maxUpRegulation now kwh) := by
  split
  next regulated =>
    have small : ¬ (1 : ℝ) < 0 := not_lt.2 zero_le_one
    simp only [economicRegulation, regulated, idle, lt_irrefl, small, if_true, if_false]
    exact zero_mul _
  next unregulated =>
    rw [economicRegulation_of_unregulated (Bool.not_eq_true _ ▸ unregulated), idle, mul_zero]

theorem economicRegulation_of_idle (idle : subscription.pendingRatio = 0)
    (spared : subscription.tariff.hasRegulation = true ∨
      0 ≤ subscription.tariff.maxUpRegulation now kwh) :
    (subscription.economicRegulation kwh now).1 = 0 := by
  rw [economicRegulation_of_none idle]
  rcases spared with regulated | room
  · exact if_pos regulated
  · rw [min_eq_left room, ite_self]

noncomputable def periodicPostings (subscription : Subscription ℝ) : List (Posting ℝ) :=
  if subscription.tariff.periodicPayment == 0 then []
  else [subscription.posting .periodic subscription.committed 0
    ((subscription.committed : ℝ) * -subscription.tariff.periodicPayment / 24.0)]

theorem credit_periodicPostings (subscription : Subscription ℝ) :
    credit subscription.periodicPostings =
      -((subscription.committed : ℝ) * (subscription.tariff.periodicPayment / 24)) := by
  unfold periodicPostings
  split
  next free =>
    rw [eq_of_beq free]
    simp
  next owing =>
    simp only [credit_cons, credit_nil, posting]
    norm_num
    ring

theorem usePower_eq (subscription : Subscription ℝ) (kwh : ℝ) (now : Instant) :
    let control := subscription.economicRegulation kwh now
    let net := kwh - control.1
    subscription.usePower kwh now =
      ({ subscription with
          pendingRatio := 0, capacity := control.2, regulation := control.1, billedKwh := net },
        subscription.posting (if net < 0 then .produce else .consume) subscription.committed
          (-net) (-(subscription.tariff.usageCharge now net)) ::
            subscription.periodicPostings) := by
  unfold usePower
  simp only [zero_add]
  rfl

theorem usePower_of_idle (idle : subscription.pendingRatio = 0)
    (spared : subscription.tariff.hasRegulation = true ∨
      0 ≤ subscription.tariff.maxUpRegulation now kwh) :
    ∃ capacity, subscription.usePower kwh now =
      ({ subscription with pendingRatio := 0, capacity, regulation := 0, billedKwh := kwh },
        subscription.posting (if kwh < 0 then .produce else .consume) subscription.committed
          (-kwh) (-(subscription.tariff.usageCharge now kwh)) ::
            subscription.periodicPostings) := by
  refine ⟨(subscription.economicRegulation kwh now).2, ?_⟩
  simp only [usePower_eq, economicRegulation_of_idle idle spared, sub_zero]

end Subscription

end RetailMarket
