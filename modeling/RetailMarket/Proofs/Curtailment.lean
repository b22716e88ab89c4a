import RetailMarket.Proofs.Billing
import RetailMarket.Proofs.Charges

/-!
# What control takes from a usage

In a timeslot the capacity of a subscription is set to the curtailable share of its usage.  Economic
control draws on it, and balancing on what is left.  Each leaves no more than it finds less what it
takes, whatever the ratio that is asked for, so that both together stay within that share.
-/

namespace RetailMarket

namespace Subscription

/-! ## Control between timeslots -/

/-- No control is pending, and where no load can be curtailed there is no capacity. -/
structure Uncontrolled {R : Type} [Quantity R] (subscription : Subscription R) : Prop where
  idle : subscription.pendingRatio = 0
  steady : subscription.tariff.isInterruptible = false → subscription.capacity.up = 0

variable {subscription : Subscription ℝ} {control : ControlSettings ℝ} {controlled : Bool}
  {time : Instant} {usage : ℝ}

theorem up_remainingCapacity_le (subscription : Subscription ℝ) :
    subscription.remainingCapacity.up ≤ max subscription.capacity.up 0 := by
  unfold remainingCapacity
  split
  · exact le_max_right _ _
  · split
    · exact le_max_left _ _
    · have staying : ((subscription.committed - subscription.pendingUnsubscribe : ℕ) : ℝ) ≤
          subscription.committed := Nat.cast_le.2 (Nat.sub_le _ _)
      exact RegulationCapacity.up_scaled_le _ (by positivity)
        (div_le_one_of_le₀ staying (Nat.cast_nonneg _))

/-! ## Economic control -/

/-- With a regulation rate, what is curtailed and what is left fit into the capacity.  A ratio above
one asks for more than the usage, which a capacity within the usage has not got. -/
theorem economicRegulation_le (regulated : subscription.tariff.hasRegulation = true)
    (positive : 0 ≤ subscription.capacity.up) (oneWay : subscription.capacity.down = 0)
    {usage : ℝ} (within : subscription.capacity.up ≤ usage) (now : Instant) :
    max (subscription.economicRegulation usage now).1 0 +
        max (subscription.economicRegulation usage now).2.up 0 ≤ subscription.capacity.up := by
  have untouched : max (0 : ℝ) 0 + max subscription.capacity.up 0 ≤ subscription.capacity.up := by
    rw [max_self, zero_add, max_eq_left positive]
  simp only [economicRegulation, regulated, if_true]
  split
  · rw [oneWay, mul_zero, RegulationCapacity.up_setDown]
    exact untouched
  next curtails =>
    split
    · rw [if_neg within.not_gt]
      exact untouched
    next modest =>
      have ratio : 0 ≤ subscription.pendingRatio := not_lt.1 curtails
      have taken : 0 ≤ subscription.pendingRatio * subscription.capacity.up :=
        mul_nonneg ratio positive
      have left : 0 ≤ subscription.capacity.up -
          subscription.pendingRatio * subscription.capacity.up :=
        sub_nonneg.2 (mul_le_of_le_one_left positive (not_lt.1 modest))
      obtain ⟨above, below⟩ := subscription.capacity.up_setUp left
      rw [max_eq_left taken, max_eq_left above]
      linarith

theorem economicRegulation_le_of_unregulated
    (unregulated : subscription.tariff.hasRegulation = false) (usage : ℝ) (now : Instant) :
    (subscription.economicRegulation usage now).1 ≤
      subscription.tariff.maxUpRegulation now usage := by
  rw [economicRegulation_of_unregulated unregulated]
  exact min_le_right _ _

theorem Uncontrolled.economicRegulation (uncontrolled : subscription.Uncontrolled)
    (steady : subscription.tariff.isInterruptible = false) (usage : ℝ) (now : Instant) :
    (subscription.economicRegulation usage now).1 = 0 ∧
      (subscription.economicRegulation usage now).2.up = 0 := by
  have most : subscription.tariff.maxUpRegulation now usage = 0 :=
    Tariff.maxUpRegulation_of_steady steady
  have nothing := economicRegulation_of_idle uncontrolled.idle (.inr most.ge)
  refine ⟨nothing, ?_⟩
  have none (capacity : RegulationCapacity ℝ) : (capacity.setUp 0).up = 0 :=
    le_antisymm (capacity.up_setUp le_rfl).2 (capacity.up_setUp le_rfl).1
  have small : ¬ (1 : ℝ) < 0 := not_lt.2 zero_le_one
  simp only [Subscription.economicRegulation, uncontrolled.idle, most, uncontrolled.steady steady,
    Quantity.smaller_real, lt_irrefl, small, if_false, mul_zero, min_self, sub_zero]
  split <;> exact none _

/-! ## One timeslot -/

section

variable {R : Type} [Quantity R]

def prepared (control : ControlSettings R) (controlled : Bool) (time : Instant) (usage : R)
    (subscription : Subscription R) : Subscription R :=
  if subscription.tariff.isInterruptible then
    let up := Quantity.larger (subscription.tariff.maxUpRegulation time usage) 0
    let capable := subscription.setCapacity (.clamped up 0)
    if controlled then capable.postRatio control.ratio else capable
  else subscription

def regulated (control : ControlSettings R) (controlled : Bool) (time : Instant) (usage : R)
    (subscription : Subscription R) : R × RegulationCapacity R :=
  (subscription.prepared control controlled time usage).economicRegulation
    (usage * (subscription.committed : R)) time

def metered (control : ControlSettings R) (controlled : Bool) (time : Instant) (usage : R)
    (subscription : Subscription R) : R × Subscription R :=
  ((subscription.prepared control controlled time usage).usePower
    (usage * (subscription.committed : R)) time).1.takeCurtailment

def isBalanced (control : ControlSettings R) (controlled : Bool) (subscription : Subscription R) :
    Bool :=
  controlled && decide (0 < control.balancingShare) && subscription.tariff.hasRegulation &&
    decide (0 < subscription.remainingCapacity.up)

theorem prepared_of_steady {subscription : Subscription R}
    (steady : subscription.tariff.isInterruptible = false) (control : ControlSettings R)
    (controlled : Bool) (time : Instant) (usage : R) :
    subscription.prepared control controlled time usage = subscription := by
  rw [prepared, if_neg (by rw [steady]; exact Bool.false_ne_true)]

theorem prepared_frame (control : ControlSettings R) (controlled : Bool) (time : Instant)
    (usage : R) (subscription : Subscription R) :
    (subscription.prepared control controlled time usage).customer = subscription.customer ∧
      (subscription.prepared control controlled time usage).tariff = subscription.tariff ∧
      (subscription.prepared control controlled time usage).committed =
        subscription.committed := by
  unfold prepared
  split
  · split <;> exact ⟨rfl, rfl, rfl⟩
  · exact ⟨rfl, rfl, rfl⟩

end

theorem capacity_prepared {share : ℝ}
    (shares : ∀ rate ∈ subscription.tariff.rates,
      0 ≤ rate.curtailable ∧ rate.curtailable ≤ share)
    (positive : 0 ≤ share)
    (interruptible : subscription.tariff.isInterruptible = true) (control : ControlSettings ℝ)
    (controlled : Bool) (time : Instant) (usage : ℝ) :
    let capacity := (subscription.prepared control controlled time usage).capacity
    0 ≤ capacity.up ∧ capacity.up ≤ share * max (usage * subscription.committed) 0 ∧
      capacity.down = 0 := by
  let up := Quantity.larger (subscription.tariff.maxUpRegulation time usage) 0
  have set : (subscription.prepared control controlled time usage).capacity =
      (RegulationCapacity.clamped up 0).scaled subscription.committed := by
    rw [prepared, if_pos interruptible]
    split <;> rfl
  have members : (0 : ℝ) ≤ subscription.committed := Nat.cast_nonneg _
  have each : (RegulationCapacity.clamped up 0).up ≤ share * max usage 0 := by
    refine (RegulationCapacity.up_clamped up 0).2.trans ?_
    rw [show up = max (subscription.tariff.maxUpRegulation time usage) 0 from
      Quantity.larger_real _ _]
    exact max_le (max_le (Tariff.maxUpRegulation_le shares positive time usage) (by positivity))
      (by positivity)
  have all : (RegulationCapacity.clamped up 0).up * subscription.committed ≤
      share * max (usage * subscription.committed) 0 :=
    calc (RegulationCapacity.clamped up 0).up * subscription.committed
        ≤ share * max usage 0 * subscription.committed := mul_le_mul_of_nonneg_right each members
      _ = share * max (usage * subscription.committed) 0 := by
          rw [mul_assoc, max_mul_of_nonneg _ _ members, zero_mul]
  intro capacity
  rw [show capacity = _ from set]
  obtain ⟨above, below⟩ := RegulationCapacity.up_clamped
    ((RegulationCapacity.clamped up 0).up * subscription.committed)
    ((RegulationCapacity.clamped up 0).down * subscription.committed)
  refine ⟨above, below.trans (max_le all (by positivity)), ?_⟩
  rw [RegulationCapacity.scaled, RegulationCapacity.down_clamped_zero, zero_mul,
    RegulationCapacity.down_clamped_zero]

theorem Uncontrolled.metered (uncontrolled : subscription.Uncontrolled)
    (steady : subscription.tariff.isInterruptible = false) :
    (subscription.metered control controlled time usage).1 = 0 ∧
      (subscription.metered control controlled time usage).2.capacity.up = 0 := by
  obtain ⟨nothing, none⟩ := uncontrolled.economicRegulation steady
    (usage * (subscription.committed : ℝ)) time
  simp only [Subscription.metered, takeCurtailment, usePower, prepared_of_steady steady, nothing,
    none, Quantity.larger_real, add_zero, mul_zero, max_self, and_self]

theorem metered_of_interruptible (interruptible : subscription.tariff.isInterruptible = true) :
    (subscription.metered control controlled time usage).1 =
      max (subscription.regulated control controlled time usage).1 0 := by
  have consumes : subscription.tariff.powerType.isProduction = false := by
    have type := (Bool.and_eq_true_iff.1 interruptible).1
    revert type
    cases subscription.tariff.powerType <;> decide
  simp only [metered, takeCurtailment, usePower, prepared_frame, Tariff.usageSign, consumes,
    Quantity.larger_real, Bool.false_eq_true, if_false, one_mul, zero_add, regulated]

end Subscription

/-! ## Bills -/

/-- What a timeslot posts for a subscription, the energies curtailed and taken for balancing, and
the subscription after that. -/
structure Bill (R : Type) where
  postings : List (Posting R)
  curtailed : R
  taken : R
  last : Subscription R

noncomputable def Bill.addTo (bill : Bill ℝ) (tally : Simulation.Tally ℝ) : Simulation.Tally ℝ :=
  { journal := tally.journal.postAll bill.postings
    curtailed := tally.curtailed + bill.curtailed
    balancing := tally.balancing - bill.taken }

def Bill.nothing {R : Type} [Quantity R] (subscription : Subscription R) : Bill R :=
  { postings := [], curtailed := 0, taken := 0, last := subscription }

theorem Bill.addTo_nothing (subscription : Subscription ℝ) (tally : Simulation.Tally ℝ) :
    (Bill.nothing subscription).addTo tally = tally := by
  simp only [addTo, nothing, Journal.postAll, List.foldl_nil, add_zero, sub_zero]

def Bill.regulation {R : Type} (bill : Bill R) : List (Posting R) :=
  bill.postings.filter fun posting => posting.kind == .regulation

namespace Subscription

variable {subscription : Subscription ℝ} {control : ControlSettings ℝ} {controlled : Bool}
  {time : Instant} {usage : ℝ}

noncomputable def bill (control : ControlSettings ℝ) (controlled : Bool) (time : Instant)
    (usage : ℝ) (subscription : Subscription ℝ) : Bill ℝ :=
  let postings := ((subscription.prepared control controlled time usage).usePower
    (usage * (subscription.committed : ℝ)) time).2
  let metered := subscription.metered control controlled time usage
  let taken := control.balancingShare * metered.2.remainingCapacity.up
  if metered.2.isBalanced control controlled then
    let balanced := metered.2.balance (-taken) time
    { postings := postings ++ balanced.2, curtailed := metered.1, taken
      last := balanced.1.takeRegulation.2 }
  else { postings, curtailed := metered.1, taken := 0, last := metered.2 }

theorem billSubscription_eq (control : ControlSettings ℝ) (controlled : Bool) (time : Instant)
    (usage : ℝ) (tally : Simulation.Tally ℝ) (subscription : Subscription ℝ) :
    Simulation.billSubscription control controlled time usage tally subscription =
      ((subscription.bill control controlled time usage).addTo tally,
        (subscription.bill control controlled time usage).last) := by
  let metered := subscription.metered control controlled time usage
  have tariff : metered.2.tariff = subscription.tariff := (prepared_frame ..).2.1
  have unfolded : Simulation.billSubscription control controlled time usage tally subscription =
      let posted : Simulation.Tally ℝ :=
        { tally with
          journal := tally.journal.postAll ((subscription.prepared control controlled time
            usage).usePower (usage * (subscription.committed : ℝ)) time).2
          curtailed := tally.curtailed + metered.1 }
      if metered.2.isBalanced control controlled = true then
        let last := metered.2.balance
          (-control.balancingShare * metered.2.remainingCapacity.up) time
        ({ posted with
            journal := posted.journal.postAll last.2
            balancing := posted.balancing + last.1.takeRegulation.1 }, last.1.takeRegulation.2)
      else (posted, metered.2) := by
    rw [isBalanced, tariff]
    rfl
  rw [unfolded]
  simp only [bill, Bill.addTo]
  by_cases draws : metered.2.isBalanced control controlled = true
  · have taken : (metered.2.balance (-control.balancingShare * metered.2.remainingCapacity.up)
        time).1.takeRegulation.1 =
          -(control.balancingShare * metered.2.remainingCapacity.up) :=
      (zero_add _).trans (neg_mul _ _)
    rw [if_pos draws, if_pos draws, taken, neg_mul, ← sub_eq_add_neg, Journal.postAll_append]
  · rw [if_neg draws, if_neg draws, sub_zero]

theorem bill_of_balanced
    (draws : (subscription.metered control controlled time usage).2.isBalanced control controlled =
      true) :
    let metered := subscription.metered control controlled time usage
    let taken := control.balancingShare * metered.2.remainingCapacity.up
    subscription.bill control controlled time usage =
      { postings := ((subscription.prepared control controlled time usage).usePower
          (usage * (subscription.committed : ℝ)) time).2 ++ (metered.2.balance (-taken) time).2
        curtailed := metered.1, taken
        last := (metered.2.balance (-taken) time).1.takeRegulation.2 } := if_pos draws

theorem bill_of_unbalanced
    (rests : ¬ (subscription.metered control controlled time usage).2.isBalanced control
      controlled = true) :
    let metered := subscription.metered control controlled time usage
    subscription.bill control controlled time usage =
      { postings := ((subscription.prepared control controlled time usage).usePower
          (usage * (subscription.committed : ℝ)) time).2
        curtailed := metered.1, taken := 0, last := metered.2 } := if_neg rests

theorem curtailed_bill : (subscription.bill control controlled time usage).curtailed =
    (subscription.metered control controlled time usage).1 := by
  unfold bill
  dsimp only
  split <;> rfl

theorem asked_of_balanced (uncontrolled : subscription.Uncontrolled)
    (draws : (subscription.metered control controlled time usage).2.isBalanced control controlled =
      true) :
    controlled = true ∧ 0 < control.balancingShare ∧ subscription.tariff.isInterruptible = true ∧
      subscription.tariff.hasRegulation = true ∧
      0 < (subscription.metered control controlled time usage).2.remainingCapacity.up := by
  have tariff : (subscription.metered control controlled time usage).2.tariff =
      subscription.tariff := (prepared_frame ..).2.1
  simp only [isBalanced, Bool.and_eq_true, decide_eq_true_eq, tariff] at draws
  obtain ⟨⟨⟨inside, share⟩, regulation⟩, left⟩ := draws
  refine ⟨inside, share, ?_, regulation, left⟩
  by_contra steady
  have most := (subscription.metered control controlled time usage).2.up_remainingCapacity_le
  rw [(uncontrolled.metered (Bool.not_eq_true _ ▸ steady)).2, max_self] at most
  exact absurd left (not_lt.2 most)

/-! ### Directions -/

theorem curtailed_bill_nonneg (uncontrolled : subscription.Uncontrolled) :
    0 ≤ (subscription.bill control controlled time usage).curtailed := by
  rw [curtailed_bill]
  cases interruptible : subscription.tariff.isInterruptible with
  | true =>
      rw [metered_of_interruptible interruptible]
      exact le_max_right _ _
  | false => exact (uncontrolled.metered interruptible).1.ge

theorem regulation_usePower (subscription : Subscription ℝ) (kwh : ℝ) (time : Instant) :
    (subscription.usePower kwh time).2.filter (fun posting => posting.kind == .regulation) =
      [] := by
  refine List.filter_eq_nil_iff.2 fun posting listed regulation => ?_
  simp only [usePower] at listed
  rcases List.mem_cons.1 listed with rfl | periodic
  · simp only [Subscription.posting] at regulation
    split at regulation <;> cases regulation
  · split at periodic
    · cases periodic
    · rw [List.mem_singleton.1 periodic] at regulation
      cases regulation

theorem postings_balance (subscription : Subscription ℝ) (taken : ℝ) (time : Instant) :
    ∃ charge, (subscription.balance (-taken) time).2 =
      [subscription.posting .regulation subscription.committed taken charge] := by
  simp only [balance, neg_neg]
  exact ⟨_, rfl⟩

theorem regulation_bill (uncontrolled : subscription.Uncontrolled) :
    let bill := subscription.bill control controlled time usage
    bill.taken = 0 ∧ bill.regulation = [] ∨
      0 < bill.taken ∧ controlled = true ∧ subscription.tariff.isInterruptible = true ∧
        subscription.tariff.hasRegulation = true ∧
        ∃ charge, bill.regulation =
          [subscription.posting .regulation subscription.committed bill.taken charge] := by
  intro bill
  by_cases draws :
    (subscription.metered control controlled time usage).2.isBalanced control controlled = true
  · obtain ⟨inside, share, interruptible, regulation, left⟩ := asked_of_balanced uncontrolled draws
    obtain ⟨charge, balanced⟩ := postings_balance
      (subscription.metered control controlled time usage).2 bill.taken time
    have drawn := bill_of_balanced draws
    refine .inr ⟨?_, inside, interruptible, regulation, charge, ?_⟩
    · rw [show bill = _ from drawn]
      exact mul_pos share left
    · have own (kwh charge : ℝ) :
          (subscription.metered control controlled time usage).2.posting .regulation
              (subscription.metered control controlled time usage).2.committed kwh charge =
            subscription.posting .regulation subscription.committed kwh charge := by
        obtain ⟨customer, tariff, committed⟩ :=
          prepared_frame control controlled time usage subscription
        simp only [posting, metered, takeCurtailment, usePower, customer, tariff, committed]
      rw [own] at balanced
      rw [← balanced, Bill.regulation, show bill = _ from drawn, List.filter_append,
        regulation_usePower]
      rfl
  · refine .inl ?_
    rw [show bill = _ from bill_of_unbalanced draws]
    exact ⟨rfl, regulation_usePower _ _ _⟩

theorem taken_bill_nonneg (uncontrolled : subscription.Uncontrolled) :
    0 ≤ (subscription.bill control controlled time usage).taken := by
  rcases regulation_bill uncontrolled with ⟨nothing, -⟩ | ⟨some, -⟩
  · exact nothing.ge
  · exact some.le

/-! ### The bound -/

theorem taken_bill_le (uncontrolled : subscription.Uncontrolled)
    (share : control.balancingShare ≤ 1) :
    (subscription.bill control controlled time usage).taken ≤
      max (subscription.regulated control controlled time usage).2.up 0 := by
  by_cases draws :
    (subscription.metered control controlled time usage).2.isBalanced control controlled = true
  · obtain ⟨-, -, -, -, left⟩ := asked_of_balanced uncontrolled draws
    rw [bill_of_balanced draws]
    exact (mul_le_of_le_one_left left.le share).trans (up_remainingCapacity_le _)
  · rw [bill_of_unbalanced draws]
    exact le_max_right _ _

theorem bill_le {share : ℝ} (uncontrolled : subscription.Uncontrolled)
    (shares : ∀ rate ∈ subscription.tariff.rates,
      0 ≤ rate.curtailable ∧ rate.curtailable ≤ share)
    (positive : 0 ≤ share) (part : share ≤ 1) (balancing : control.balancingShare ≤ 1)
    (consumed : subscription.tariff.isInterruptible = true → 0 ≤ usage) :
    (subscription.bill control controlled time usage).curtailed +
        (subscription.bill control controlled time usage).taken ≤
      share * max (usage * subscription.committed) 0 := by
  have most : 0 ≤ share * max (usage * subscription.committed) 0 :=
    mul_nonneg positive (le_max_right _ _)
  rw [curtailed_bill]
  cases interruptible : subscription.tariff.isInterruptible with
  | false =>
      rw [(uncontrolled.metered interruptible).1, zero_add]
      rcases regulation_bill uncontrolled with ⟨nothing, -⟩ | ⟨-, -, other, -⟩
      · rw [nothing]
        exact most
      · rw [interruptible] at other
        cases other
  | true =>
      have tariff := (prepared_frame control controlled time usage subscription).2.1
      obtain ⟨above, below, oneWay⟩ :=
        capacity_prepared shares positive interruptible control controlled time usage
      rw [metered_of_interruptible interruptible]
      cases regulation : subscription.tariff.hasRegulation with
      | true =>
          have usages : 0 ≤ usage * subscription.committed :=
            mul_nonneg (consumed interruptible) (Nat.cast_nonneg _)
          have within : (subscription.prepared control controlled time usage).capacity.up ≤
              usage * subscription.committed := by
            refine below.trans ?_
            rw [max_eq_left usages]
            exact mul_le_of_le_one_left usages part
          have fits := economicRegulation_le (by rw [tariff, regulation]) above oneWay within time
          exact (add_le_add_right (taken_bill_le uncontrolled balancing) _).trans
            (fits.trans below)
      | false =>
          have limit := (economicRegulation_le_of_unregulated (by rw [tariff, regulation])
            (usage * subscription.committed) time).trans
              (Tariff.maxUpRegulation_le (by rw [tariff]; exact shares) positive time _)
          rcases regulation_bill uncontrolled with ⟨nothing, -⟩ | ⟨-, -, -, other, -⟩
          · rw [nothing, add_zero]
            exact max_le limit most
          · rw [regulation] at other
            cases other

theorem Uncontrolled.bill (uncontrolled : subscription.Uncontrolled) :
    (subscription.bill control controlled time usage).last.Uncontrolled := by
  have tariff := (prepared_frame control controlled time usage subscription).2.1
  by_cases draws :
    (subscription.metered control controlled time usage).2.isBalanced control controlled = true
  · obtain ⟨-, -, interruptible, -, -⟩ := asked_of_balanced uncontrolled draws
    rw [bill_of_balanced draws]
    refine ⟨rfl, fun steady => ?_⟩
    have same : subscription.tariff.isInterruptible = false := tariff ▸ steady
    rw [interruptible] at same
    cases same
  · rw [bill_of_unbalanced draws]
    exact ⟨rfl, fun steady => (uncontrolled.metered (tariff ▸ steady)).2⟩

end Subscription

end RetailMarket
