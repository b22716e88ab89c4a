import RetailMarket.Proofs.Charges

/-!
# Charges for balancing energy

A population has used some energy, and part of it is then curtailed for balancing.  What is due to
the broker is the charge for the rest less the up payment, which belongs to the customer.  What is
posted differs from that by twice the regulation charge: it is credited to the broker instead of
the customer.
-/

namespace RetailMarket

/-- What is due to the broker for a usage of which part has been curtailed. -/
noncomputable def Tariff.dueAfterCurtailment (tariff : Tariff ℝ) (now : Instant)
    (used curtailed : ℝ) : ℝ :=
  -(tariff.usageCharge now (used - curtailed)) -
    match tariff.regulation with
    | none => 0
    | some rate => rate.up * curtailed

/-- What is posted for curtailed energy.  Only a tariff with a regulation rate gives the usage
charge back. -/
noncomputable def Tariff.curtailmentCharge (tariff : Tariff ℝ) (now : Instant) (curtailed : ℝ) :
    ℝ :=
  tariff.regulationCharge now (-curtailed) -
    if tariff.hasRegulation then tariff.usageCharge now (-curtailed) else 0

theorem Tariff.usageCharge_add_curtailmentCharge {tariff : Tariff ℝ} {curtailed : ℝ}
    (untiered : tariff.isTiered = false) (now : Instant) (used : ℝ) (positive : 0 < curtailed) :
    -(tariff.usageCharge now used) + tariff.curtailmentCharge now curtailed =
      tariff.dueAfterCurtailment now used curtailed +
        2 * tariff.regulationCharge now (-curtailed) := by
  have linear := usageCharge_of_untiered untiered now
  unfold dueAfterCurtailment curtailmentCharge regulationCharge hasRegulation
  cases tariff.regulation with
  | none =>
      simp only [Option.isSome_none, Bool.false_eq_true, if_false]
      rw [linear used, linear (-curtailed), linear (used - curtailed)]
      ring
  | some rate =>
      simp only [Option.isSome_some, if_true, Left.neg_neg_iff, positive]
      rw [linear used, linear (-curtailed), linear (used - curtailed)]
      ring

namespace Subscription

variable {subscription : Subscription ℝ} {curtailed : ℝ}

theorem balance_of_curtailed (now : Instant) (consumed : 0 < subscription.billedKwh)
    (positive : 0 < curtailed) :
    (subscription.balance (-curtailed) now).2 =
      [subscription.posting .regulation subscription.committed curtailed
        (subscription.tariff.curtailmentCharge now curtailed)] := by
  have up : direction (-curtailed) = -1 := by
    simp [direction, positive, positive.le]
  have down : direction subscription.billedKwh = 1 := if_pos consumed
  simp only [balance, up, down, neg_neg, Tariff.curtailmentCharge]
  congr 2
  by_cases regulated : subscription.tariff.hasRegulation = true
  · simp [regulated]
    ring
  · simp [regulated]

/-- The postings for a usage and for the balancing energy taken from it afterwards are worth what
is due and twice the regulation charge besides. -/
theorem balancing_reverses_payment (subscription : Subscription ℝ) (now : Instant)
    (used curtailed : ℝ) (untiered : subscription.tariff.isTiered = false)
    (shares : ∀ rate ∈ subscription.tariff.rates, 0 ≤ rate.curtailable)
    (idle : subscription.pendingRatio = 0) (consumed : 0 < used) (positive : 0 < curtailed) :
    let metered := subscription.usePower used now
    let due := subscription.tariff.dueAfterCurtailment now used curtailed
    let payment := subscription.tariff.regulationCharge now (-curtailed)
    ∃ usage balancing : Posting ℝ,
      metered.2 = usage :: subscription.periodicPostings ∧
      (metered.1.balance (-curtailed) now).2 = [balancing] ∧
      usage.kind = .consume ∧ usage.kwh = -used ∧
      balancing.kind = .regulation ∧ balancing.kwh = curtailed ∧
      usage.charge + balancing.charge = due + 2 * payment ∧
      (usage.charge + balancing.charge = due ↔ payment = 0) := by
  intro metered due payment
  have room : 0 ≤ subscription.tariff.maxUpRegulation now used :=
    Tariff.maxUpRegulation_nonneg shares consumed.le
  obtain ⟨capacity, billed⟩ := usePower_of_idle idle (.inr room)
  rw [if_neg consumed.le.not_gt] at billed
  have billedKwh : 0 < metered.1.billedKwh := by
    simpa only [metered, billed] using consumed
  have balanced := balance_of_curtailed now billedKwh positive
  simp only [metered, billed] at balanced ⊢
  have total := Tariff.usageCharge_add_curtailmentCharge untiered now used positive
  refine ⟨_, _, rfl, balanced, rfl, rfl, rfl, rfl, total, (Eq.congr_left total).trans ?_⟩
  constructor <;> intro <;> linarith

/-! ### A household -/

namespace Balancing

def household : Customer :=
  { id := ⟨1⟩, name := "household", population := 10, powerType := .consumption }

noncomputable def offer : Tariff ℝ :=
  { Tariff.free ⟨1⟩ "bob" .consumption with
    rates := [.fixed (-0.1)], regulation := some ⟨0.05, -0.01⟩ }

noncomputable def contract : Subscription ℝ :=
  { Subscription.opened household offer with committed := 10 }

theorem usageCharge_offer (kwh : ℝ) : offer.usageCharge .epoch kwh = -kwh / 10 := by
  have found : offer.rateAt .epoch kwh = some (.fixed (-0.1)) := by
    simp [offer, Tariff.rateAt, Tariff.covers, Rate.appliesAt, Rate.fixed, lastGreatest?,
      Quantity.magnitude_real]
  simp only [Tariff.usageCharge, Tariff.usageChargeBy, found]
  simp [offer, Tariff.free, Tariff.usageSign, PowerType.isProduction, Rate.settled, Rate.fixed]
  ring

end Balancing

/-- Of 100 kilowatt hours at 0.1 each, 20 are curtailed at an up payment of 0.05.  The broker is
credited with 9, although 80 kilowatt hours less the payment are worth 7. -/
theorem balancing_reverses_payment_household :
    ∃ usage balancing : Posting ℝ,
      (Balancing.contract.usePower 100 .epoch).2 = [usage] ∧
      ((Balancing.contract.usePower 100 .epoch).1.balance (-20) .epoch).2 = [balancing] ∧
      usage.charge + balancing.charge = 9 ∧
      Balancing.offer.dueAfterCurtailment .epoch 100 20 = 7 := by
  have due : Balancing.offer.dueAfterCurtailment .epoch 100 20 = 7 := by
    unfold Tariff.dueAfterCurtailment
    rw [Balancing.usageCharge_offer]
    norm_num [Balancing.offer]
  have payment : Balancing.offer.regulationCharge .epoch (-20) = 1 := by
    norm_num [Tariff.regulationCharge, Balancing.offer]
  have untiered : Balancing.offer.isTiered = false := by
    simp [Balancing.offer, Tariff.isTiered, Rate.fixed]
  have shares : ∀ rate ∈ Balancing.offer.rates, 0 ≤ rate.curtailable := by
    simp [Balancing.offer, Rate.fixed]
  obtain ⟨usage, balancing, metered, balanced, -, -, -, -, total, -⟩ :=
    balancing_reverses_payment Balancing.contract .epoch 100 20 untiered shares rfl (by norm_num)
      (by norm_num)
  have free : Balancing.contract.periodicPostings = [] := if_pos (beq_self_eq_true (0 : ℝ))
  refine ⟨usage, balancing, metered.trans (by rw [free]), balanced, ?_, due⟩
  calc usage.charge + balancing.charge
      = Balancing.offer.dueAfterCurtailment .epoch 100 20 +
          2 * Balancing.offer.regulationCharge .epoch (-20) := total
    _ = 9 := by rw [due, payment]; norm_num

end Subscription

end RetailMarket
