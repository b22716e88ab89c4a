import RetailMarket.Proofs.Charges
import RetailMarket.Proofs.Emptied

/-!
# The ceiling on curtailment

Where a tariff has no regulation rate, control takes what the ratio asks for, or the most that the
tariff allows if that is less.  The ceiling bounds from above only.  Under a ratio below zero a
population is made to use more than it would.  The ceiling on energy that is fed in is negative, and
it is taken even where nothing has been asked for.
-/

namespace RetailMarket

variable {R : Type} [Quantity R]

/-! ## Ratios that wait for a usage -/

namespace Operation

/-- The ratio that waits after an operation, if `waiting` did before it. -/
def waiting? (waiting : Option R) : Operation R → Option R
  | handle (.usePower _) => none
  | handle (.postRatio ratio) => some ratio
  | _ => waiting

theorem pendingRatio_perform {subscription : Subscription R} {waiting : Option R}
    (same : subscription.pendingRatio = waiting.getD 0) (now : Instant) (operation : Operation R) :
    (operation.perform now subscription).pendingRatio = (operation.waiting? waiting).getD 0 := by
  cases operation with
  | turnOver change =>
      cases change with
      | joining => exact same
      | leaving revoked count =>
          refine Eq.trans ?_ same
          simp only [perform, Subscription.turnOver, Subscription.release]
          split <;> rfl
  | handle handling =>
      cases handling with
      | usePower | postRatio => rfl
      | balance | takeRegulation | takeCurtailment => exact same
  | ask | setCapacity => exact same

end Operation

namespace Subscription

/-- The ratio posted since the last usage. -/
def posted? (history : List (Instant × Operation R)) : Option R :=
  history.foldl (fun waiting call => call.2.waiting? waiting) none

theorem pendingRatio_operated (customer : Customer) (tariff : Tariff R)
    (history : List (Instant × Operation R)) :
    ((opened customer tariff).operated history).pendingRatio = (posted? history).getD 0 := by
  induction history using List.reverseRecOn with
  | nil => rfl
  | append_singleton earlier call ih =>
      simp only [operated, posted?, List.foldl_append, List.foldl_cons, List.foldl_nil] at ih ⊢
      exact Operation.pendingRatio_perform ih call.1 call.2

/-! ## Readings and bills -/

/-- Of a reading of `kwh`, control takes `taken` and `net` is billed. -/
structure Meters (subscription : Subscription ℝ) (now : Instant) (kwh net taken : ℝ) : Prop where
  billed : (subscription.usePower kwh now).1.billedKwh = net
  regulation : (subscription.usePower kwh now).1.takeRegulation.1 = taken
  posted : (subscription.usePower kwh now).2 =
    subscription.posting (if net < 0 then .produce else .consume) subscription.committed (-net)
      (-(subscription.tariff.usageCharge now net)) :: subscription.periodicPostings

variable {subscription : Subscription ℝ}

theorem meters_of_taken {kwh taken : ℝ} {now : Instant}
    (control : (subscription.economicRegulation kwh now).1 = taken) :
    subscription.Meters now kwh (kwh - taken) taken := by
  subst control
  have metered := subscription.usePower_eq kwh now
  refine ⟨?_, ?_, ?_⟩ <;> rw [metered]
  rfl

/-! ## Without posted control -/

/-- If no ratio has been posted since the last usage, a reading is billed as it is unless the
ceiling for it is negative and the tariff has no regulation rate.  There the ceiling is taken off.
Where no load can be curtailed, and for consumption of which a share can, no ceiling is
negative. -/
theorem billed_as_read_iff (customer : Customer) (tariff : Tariff ℝ)
    (history : List (Instant × Operation ℝ)) (unposted : posted? history = none) (kwh : ℝ)
    (now : Instant) :
    let contract := (opened customer tariff).operated history
    let ceiling := tariff.maxUpRegulation now kwh
    (contract.Meters now kwh kwh 0 ↔ tariff.hasRegulation = true ∨ 0 ≤ ceiling) ∧
      (tariff.hasRegulation = false → ceiling < 0 →
        contract.Meters now kwh (kwh - ceiling) ceiling) ∧
      (tariff.isInterruptible = false ∨ 0 ≤ kwh ∧ (∀ rate ∈ tariff.rates, 0 ≤ rate.curtailable) →
        contract.Meters now kwh kwh 0) := by
  intro contract ceiling
  have terms : contract.tariff = tariff := tariff_operated _ history
  have idle : contract.pendingRatio = 0 := by
    rw [pendingRatio_operated, unposted, Option.getD_none]
  have control := economicRegulation_of_none idle kwh now
  rw [terms] at control
  have asRead : contract.Meters now kwh kwh 0 ↔ tariff.hasRegulation = true ∨ 0 ≤ ceiling := by
    constructor
    · intro read
      by_cases regulated : tariff.hasRegulation = true
      · exact .inl regulated
      · have nothing := (meters_of_taken control).regulation.symm.trans read.regulation
        rw [if_neg regulated] at nothing
        exact .inr (min_eq_left_iff.1 nothing)
    · intro spared
      have nothing : (contract.economicRegulation kwh now).1 = 0 :=
        economicRegulation_of_idle idle (by rwa [terms])
      have metered := meters_of_taken nothing
      rwa [sub_zero] at metered
  refine ⟨asRead, fun unregulated negative => ?_, fun spared => asRead.2 (.inr ?_)⟩
  · rw [unregulated, if_neg Bool.false_ne_true, min_eq_right negative.le] at control
    exact meters_of_taken control
  · rcases spared with steady | ⟨consumed, shares⟩
    · exact (Tariff.maxUpRegulation_of_steady steady).ge
    · exact Tariff.maxUpRegulation_nonneg shares consumed

namespace Flexible

def customer : Customer :=
  { id := ⟨1⟩, name := "flexible", population := 10, powerType := .batteryStorage }

noncomputable def offer : Tariff ℝ :=
  { Tariff.free ⟨1⟩ "bob" .batteryStorage with
    rates := [{ Rate.fixed (-0.1) with curtailable := 0.5 }] }

theorem maxUpRegulation_offer (kwh : ℝ) : offer.maxUpRegulation .epoch kwh = kwh / 2 := by
  have found : offer.rateAt .epoch kwh = some { Rate.fixed (-0.1) with curtailable := 0.5 } := by
    simp [offer, Tariff.rateAt, Tariff.covers, Rate.appliesAt, Rate.fixed, lastGreatest?,
      Quantity.magnitude_real]
  have flexible : offer.powerType.isInterruptible = true := rfl
  rw [Tariff.maxUpRegulation, if_pos flexible, found]
  norm_num
  ring

noncomputable def contract (ratio : ℝ) : Subscription ℝ :=
  { opened customer offer with committed := 10, pendingRatio := ratio }

end Flexible

/-- Ten batteries that have joined are asked for nothing.  What they take is billed as it is, and of
100 that they feed in half is taken off. -/
theorem billed_as_read_iff_feedIn :
    let joined : List (Instant × Operation ℝ) := [(.epoch, .turnOver (.joining 10))]
    let contract := (opened Flexible.customer Flexible.offer).operated joined
    posted? joined = none ∧ contract.committed = 10 ∧ contract.Meters .epoch 100 100 0 ∧
      ¬ contract.Meters .epoch (-100) (-100) 0 ∧ contract.Meters .epoch (-100) (-50) (-50) := by
  intro joined contract
  obtain ⟨consumes, -, -⟩ :=
    billed_as_read_iff Flexible.customer Flexible.offer joined rfl 100 .epoch
  obtain ⟨feeds, taken, -⟩ :=
    billed_as_read_iff Flexible.customer Flexible.offer joined rfl (-100) .epoch
  rw [Flexible.maxUpRegulation_offer] at consumes feeds taken
  have unregulated : Flexible.offer.hasRegulation = false := rfl
  refine ⟨rfl, rfl, consumes.2 (.inr (by norm_num)), ?_, ?_⟩
  · rw [feeds, unregulated]
    norm_num
  · have half := taken unregulated (by norm_num)
    norm_num at half
    exact half

/-! ## Without a regulation rate -/

/-- Without a regulation rate, what is taken of a consumption is the share that is asked for up to
the ceiling, and what is left of the ceiling becomes the up capacity.  It is curtailment, and the
capacity within the ceiling, exactly if the ratio is not negative or nothing is consumed; the dead
band apart. -/
theorem curtailed_below_ceiling_iff (subscription : Subscription ℝ) (kwh : ℝ) (now : Instant)
    (unregulated : subscription.tariff.hasRegulation = false)
    (shares : ∀ rate ∈ subscription.tariff.rates, 0 ≤ rate.curtailable ∧ rate.curtailable ≤ 1)
    (consumed : 0 ≤ kwh) :
    let ratio := subscription.pendingRatio
    let ceiling := subscription.tariff.maxUpRegulation now kwh
    let taken := min (kwh * ratio) ceiling
    let left := (subscription.usePower kwh now).1.capacity
    subscription.Meters now kwh (kwh - taken) taken ∧
      subscription.capacity.setUp? (ceiling - taken) = some left ∧
      left = { subscription.capacity with up := RegulationCapacity.snap (ceiling - taken) } ∧
      taken ≤ ceiling ∧ 0 ≤ kwh - taken ∧
      (0 ≤ taken ↔ 0 ≤ ratio ∨ kwh = 0) ∧ (kwh - taken ≤ kwh ↔ 0 ≤ ratio ∨ kwh = 0) ∧
      (left.up ≤ ceiling ↔ 0 ≤ ratio ∨ kwh = 0 ∨ ceiling - taken < 1e-4) ∧
      (ratio < 0 → taken = kwh * ratio) := by
  intro ratio ceiling taken left
  have positive : 0 ≤ ceiling :=
    Tariff.maxUpRegulation_nonneg (fun rate listed => (shares rate listed).1) consumed
  have within : ceiling ≤ kwh := by
    have part := Tariff.maxUpRegulation_le shares zero_le_one now kwh
    rwa [one_mul, max_eq_left consumed] at part
  have control := economicRegulation_of_unregulated unregulated kwh now
  have after : left =
      { subscription.capacity with up := RegulationCapacity.snap (ceiling - taken) } :=
    congrArg Prod.snd control
  have below : taken ≤ ceiling := min_le_right _ _
  have rest : 0 ≤ ceiling - taken := sub_nonneg.2 below
  have curtails : 0 ≤ taken ↔ 0 ≤ ratio ∨ kwh = 0 := by
    rw [le_min_iff, and_iff_left positive]
    rcases consumed.eq_or_lt with rfl | some
    · simp
    · rw [mul_nonneg_iff_of_pos_left some, or_iff_left some.ne']
  refine ⟨meters_of_taken (congrArg Prod.fst control), ?_, after, below,
    sub_nonneg.2 (below.trans within), curtails, ?_, ?_, fun negative => ?_⟩
  · rw [after]
    exact subscription.capacity.setUp?_of_nonneg rest
  · rw [sub_le_self_iff, curtails]
  · rw [after, ← or_assoc, ← curtails]
    dsimp only
    rcases lt_or_ge (ceiling - taken) 1e-4 with near | far
    · rw [RegulationCapacity.snap_of_lt ((abs_of_nonneg rest).trans_lt near)]
      exact ⟨fun _ => .inr near, fun _ => positive⟩
    · rw [RegulationCapacity.snap_of_le (far.trans_eq (abs_of_nonneg rest).symm), sub_le_self_iff,
        or_iff_left far.not_gt]
  · exact min_eq_left ((mul_nonpos_of_nonneg_of_nonpos consumed negative.le).trans positive)

/-- Of 100 that the batteries take, two fifths are curtailed and a tenth more could be.  Asked for
minus a half they take 150, and twice the ceiling is booked as capacity. -/
theorem curtailed_below_ceiling_iff_flexible :
    let curtailed := Flexible.contract 0.4
    let absorbing := Flexible.contract (-0.5)
    curtailed.tariff.maxUpRegulation .epoch 100 = 50 ∧
      curtailed.Meters .epoch 100 60 40 ∧ (curtailed.usePower 100 .epoch).1.capacity.up = 10 ∧
      absorbing.Meters .epoch 100 150 (-50) ∧
      (absorbing.usePower 100 .epoch).1.capacity.up = 100 := by
  intro curtailed absorbing
  have shares : ∀ rate ∈ Flexible.offer.rates, 0 ≤ rate.curtailable ∧ rate.curtailable ≤ 1 := by
    norm_num [Flexible.offer]
  have ceiling : Flexible.offer.maxUpRegulation .epoch 100 = 50 := by
    rw [Flexible.maxUpRegulation_offer]
    norm_num
  obtain ⟨less, -, kept, -⟩ :=
    curtailed_below_ceiling_iff curtailed 100 .epoch rfl shares (by norm_num)
  obtain ⟨more, -, grown, -⟩ :=
    curtailed_below_ceiling_iff absorbing 100 .epoch rfl shares (by norm_num)
  have most (ratio : ℝ) :
      (Flexible.contract ratio).tariff.maxUpRegulation .epoch 100 = 50 := ceiling
  have fifths : min (100 * curtailed.pendingRatio) 50 = 40 := by
    norm_num [curtailed, Flexible.contract]
  have minusHalf : min (100 * absorbing.pendingRatio) 50 = -50 := by
    norm_num [absorbing, Flexible.contract]
  rw [most, fifths] at less kept
  rw [most, minusHalf] at more grown
  refine ⟨most _, ?_, ?_, ?_, ?_⟩
  · norm_num at less
    exact less
  · rw [kept]
    norm_num [RegulationCapacity.snap_of_one_le]
  · norm_num at more
    exact more
  · rw [grown]
    norm_num [RegulationCapacity.snap_of_one_le]

end Subscription

end RetailMarket
