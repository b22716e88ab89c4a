import RetailMarket.Proofs.Curtailment

/-!
# Drawing on a capacity

Economic control and balancing energy both draw on the capacity of a subscription, control first.
Within the range of ratios that can be configured each finds enough there, and what it takes is gone
from the side it is taken from.  No energy is taken twice.
-/

namespace RetailMarket

namespace RegulationCapacity

/-- `drawn` is within a capacity and is taken from its up side if positive, from its down side if
negative.  The assignment is accepted, and the other side stays as it is. -/
structure Draws (before : RegulationCapacity ℝ) (drawn : ℝ) (after : RegulationCapacity ℝ) :
    Prop where
  least : before.down ≤ drawn
  most : drawn ≤ before.up
  fromUp : 0 ≤ drawn → before.setUp? (before.up - drawn) = some after ∧
    after = { before with up := snap (before.up - drawn) }
  fromDown : drawn ≤ 0 → before.setDown? (before.down - drawn) = some after ∧
    after = { before with down := snap (before.down - drawn) }

namespace Draws

variable {before after : RegulationCapacity ℝ} {drawn : ℝ}

theorem nothing (lawful : before.Lawful) : before.Draws 0 before where
  least := lawful.down_nonpos
  most := lawful.up_nonneg
  fromUp _ := by
    rw [sub_zero, setUp?_of_nonneg before lawful.up_nonneg, snap_of_isApart lawful.upApart]
    exact ⟨rfl, rfl⟩
  fromDown _ := by
    rw [sub_zero, setDown?_of_nonpos before lawful.down_nonpos, snap_of_isApart lawful.downApart]
    exact ⟨rfl, rfl⟩

theorem setUp_eq (draws : before.Draws drawn after) (positive : 0 ≤ drawn) :
    before.setUp (before.up - drawn) = after := by
  rw [setUp, (draws.fromUp positive).1, Option.getD_some]

theorem setDown_eq (draws : before.Draws drawn after) (negative : drawn ≤ 0) :
    before.setDown (before.down - drawn) = after := by
  rw [setDown, (draws.fromDown negative).1, Option.getD_some]

theorem ofUp (lawful : before.Lawful) (positive : 0 ≤ drawn) (enough : drawn ≤ before.up) :
    before.Draws drawn (before.setUp (before.up - drawn)) := by
  have accepted := setUp?_of_nonneg before (sub_nonneg.2 enough)
  rcases positive.eq_or_lt with rfl | some
  · rw [(nothing lawful).setUp_eq le_rfl]
    exact nothing lawful
  · rw [setUp, accepted, Option.getD_some]
    exact ⟨lawful.down_nonpos.trans positive, enough, fun _ => ⟨accepted, rfl⟩,
      fun negative => absurd some negative.not_gt⟩

theorem ofDown (lawful : before.Lawful) (negative : drawn ≤ 0) (enough : before.down ≤ drawn) :
    before.Draws drawn (before.setDown (before.down - drawn)) := by
  have accepted := setDown?_of_nonpos before (sub_nonpos.2 enough)
  rcases negative.eq_or_lt with rfl | some
  · rw [(nothing lawful).setDown_eq le_rfl]
    exact nothing lawful
  · rw [setDown, accepted, Option.getD_some]
    exact ⟨enough, negative.trans lawful.up_nonneg, fun positive => absurd some positive.not_gt,
      fun _ => ⟨accepted, rfl⟩⟩

theorem max_add_up_le (draws : before.Draws drawn after) : max drawn 0 + after.up ≤ before.up := by
  rcases le_total 0 drawn with positive | negative
  · have left : after.up ≤ before.up - drawn := by
      rw [(draws.fromUp positive).2]
      exact (snap_bounds (sub_nonneg.2 draws.most)).2
    rw [max_eq_left positive]
    linarith
  · rw [max_eq_right negative, (draws.fromDown negative).2, zero_add]

theorem lt_max_add_up (draws : before.Draws drawn after) :
    before.up < max drawn 0 + after.up + deadBand := by
  rcases le_total 0 drawn with positive | negative
  · have hidden := lt_snap_add (before.up - drawn)
    rw [max_eq_left positive, (draws.fromUp positive).2]
    dsimp only
    linarith
  · rw [max_eq_right negative, (draws.fromDown negative).2, zero_add]
    exact lt_add_of_pos_right _ deadBand_pos

theorem lawful (draws : before.Draws drawn after) (lawful : before.Lawful) : after.Lawful := by
  rcases le_total 0 drawn with positive | negative
  · exact draws.setUp_eq positive ▸ lawful.setUp _
  · exact draws.setDown_eq negative ▸ lawful.setDown _

end Draws

end RegulationCapacity

namespace Subscription

variable {subscription : Subscription ℝ}

theorem lawful_remainingCapacity (lawful : subscription.capacity.Lawful) :
    subscription.remainingCapacity.Lawful := by
  unfold remainingCapacity
  split
  · exact RegulationCapacity.lawful_zero
  · split
    · exact lawful
    · exact RegulationCapacity.lawful_clamped _ _

/-- Below zero a ratio asks for energy to be absorbed, above one for discharge of what goes beyond
the usage.  In each range the capacity has got what is asked for. -/
theorem draws_economicRegulation {kwh : ℝ}
    (regulated : subscription.tariff.hasRegulation = true)
    (lawful : subscription.capacity.Lawful) (consumed : 0 ≤ kwh)
    (least : -1 ≤ subscription.pendingRatio) (most : subscription.pendingRatio ≤ 2)
    (now : Instant) :
    let control := subscription.economicRegulation kwh now
    subscription.capacity.Draws control.1 control.2 ∧
      (subscription.pendingRatio < 0 → control.1 ≤ 0) ∧
      (0 ≤ subscription.pendingRatio → 0 ≤ control.1) := by
  have up := lawful.up_nonneg
  have down := lawful.down_nonpos
  simp only [economicRegulation, regulated, if_true]
  split
  next absorbs =>
    have negative : -subscription.pendingRatio * subscription.capacity.down ≤ 0 :=
      mul_nonpos_of_nonneg_of_nonpos (neg_nonneg.2 absorbs.le) down
    have enough : subscription.capacity.down ≤
        -subscription.pendingRatio * subscription.capacity.down :=
      le_mul_of_le_one_left down (by linarith)
    exact ⟨.ofDown lawful negative enough, fun _ => negative,
      fun positive => absurd absorbs positive.not_gt⟩
  next curtails =>
    have ratio : 0 ≤ subscription.pendingRatio := not_lt.1 curtails
    split
    next discharges =>
      split
      next beyond =>
        have rest : 0 ≤ subscription.capacity.up - kwh := sub_nonneg.2 beyond.le
        have some : 0 ≤ (subscription.pendingRatio - 1) * (subscription.capacity.up - kwh) :=
          mul_nonneg (sub_nonneg.2 discharges.le) rest
        have part : (subscription.pendingRatio - 1) * (subscription.capacity.up - kwh) ≤
            subscription.capacity.up - kwh :=
          mul_le_of_le_one_left rest (by linarith)
        have positive := add_nonneg consumed some
        exact ⟨.ofUp lawful positive (by linarith), fun negative => absurd negative ratio.not_gt,
          fun _ => positive⟩
      next =>
        exact ⟨.nothing lawful, fun _ => le_rfl, fun _ => le_rfl⟩
    next modest =>
      have positive : 0 ≤ subscription.pendingRatio * subscription.capacity.up :=
        mul_nonneg ratio up
      have enough : subscription.pendingRatio * subscription.capacity.up ≤
          subscription.capacity.up := mul_le_of_le_one_left up (not_lt.1 modest)
      exact ⟨.ofUp lawful positive enough, fun negative => absurd negative ratio.not_gt,
        fun _ => positive⟩

theorem draws_balance (lawful : subscription.capacity.Lawful) {share : ℝ} (positive : 0 ≤ share)
    (part : share ≤ 1) (now : Instant) :
    let asked := share * subscription.remainingCapacity.up
    0 ≤ asked ∧
      subscription.capacity.Draws asked (subscription.balance (-asked) now).1.capacity := by
  intro asked
  have remaining : 0 ≤ subscription.remainingCapacity.up :=
    (lawful_remainingCapacity lawful).up_nonneg
  have some : 0 ≤ asked := mul_nonneg positive remaining
  have enough : asked ≤ subscription.capacity.up := by
    refine (mul_le_of_le_one_left remaining part).trans ?_
    have bound := up_remainingCapacity_le subscription
    rwa [max_eq_left lawful.up_nonneg] at bound
  have up : (subscription.balance (-asked) now).1.capacity =
      subscription.capacity.setUp (subscription.capacity.up - asked) :=
    if_pos (neg_nonpos.2 some)
  rw [up]
  exact ⟨some, .ofUp lawful some enough⟩

/-- With a regulation rate, control draws on the capacity whatever the ratio, and balancing draws on
what control has left.  Curtailed and balanced energy and the up capacity that is left come to the
up capacity before, apart from what the dead band hides. -/
theorem regulation_drawn_once (subscription : Subscription ℝ) (kwh share : ℝ) (now later : Instant)
    (regulated : subscription.tariff.hasRegulation = true)
    (lawful : subscription.capacity.Lawful) (consumed : 0 ≤ kwh)
    (least : -1 ≤ subscription.pendingRatio) (most : subscription.pendingRatio ≤ 2)
    (positive : 0 ≤ share) (part : share ≤ 1) :
    let used := (subscription.usePower kwh now).1
    let drawn := used.takeRegulation.1
    let asked := share * used.remainingCapacity.up
    let balanced := (used.balance (-asked) later).1
    used.billedKwh = kwh - drawn ∧
      (subscription.pendingRatio < 0 → drawn ≤ 0) ∧ (0 ≤ subscription.pendingRatio → 0 ≤ drawn) ∧
      subscription.capacity.Draws drawn used.capacity ∧
      0 ≤ asked ∧ used.capacity.Draws asked balanced.capacity ∧
      max drawn 0 + asked ≤ subscription.capacity.up ∧
      max drawn 0 + asked + balanced.capacity.up ≤ subscription.capacity.up ∧
      subscription.capacity.up < max drawn 0 + asked + balanced.capacity.up + 2 * 1e-4 := by
  intro used drawn asked balanced
  have exercised : drawn = (subscription.economicRegulation kwh now).1 := zero_add _
  obtain ⟨taken, absorbs, curtails⟩ :=
    draws_economicRegulation regulated lawful consumed least most now
  rw [← exercised] at taken absorbs curtails
  have controls : subscription.capacity.Draws drawn used.capacity := taken
  obtain ⟨some, balances⟩ : 0 ≤ asked ∧ used.capacity.Draws asked balanced.capacity :=
    draws_balance (controls.lawful lawful) positive part later
  have after := balances.max_add_up_le
  have hidden := balances.lt_max_add_up
  rw [max_eq_left some] at after hidden
  refine ⟨?_, absorbs, curtails, controls, some, balances, ?_, ?_, ?_⟩
  · rw [exercised]
    rfl
  · calc max drawn 0 + asked ≤ max drawn 0 + used.capacity.up := by gcongr; exact balances.most
      _ ≤ subscription.capacity.up := controls.max_add_up_le
  · calc max drawn 0 + asked + balanced.capacity.up
        = max drawn 0 + (asked + balanced.capacity.up) := add_assoc _ _ _
      _ ≤ max drawn 0 + used.capacity.up := by gcongr
      _ ≤ subscription.capacity.up := controls.max_add_up_le
  · have before := controls.lt_max_add_up
    unfold RegulationCapacity.deadBand at hidden before
    linarith

namespace Discharging

def customer : Customer :=
  { id := ⟨1⟩, name := "discharging", population := 10, powerType := .batteryStorage }

noncomputable def offer : Tariff ℝ :=
  { Tariff.free ⟨1⟩ "local" .batteryStorage with regulation := some ⟨0.05, -0.01⟩ }

noncomputable def contract : Subscription ℝ :=
  { opened customer offer with
    committed := 10, pendingUnsubscribe := 5, capacity := ⟨20.0, -10.0⟩, pendingRatio := 1.5 }

end Discharging

/-- Of a capacity of 20 a discharge takes 15 while 10 are used.  Half of the 5 that are left belongs
to members about to leave, and all of the other half is taken for balancing. -/
theorem regulation_drawn_once_discharging :
    let used := (Discharging.contract.usePower 10 .epoch).1
    let balanced := (used.balance (-(1 * used.remainingCapacity.up)) .epoch).1
    used.takeRegulation.1 = 15 ∧ used.billedKwh = -5 ∧ used.capacity.up = 5 ∧
      used.remainingCapacity.up = 5 / 2 ∧ balanced.capacity.up = 5 / 2 := by
  intro used balanced
  have lawful : Discharging.contract.capacity.Lawful := by
    have own : RegulationCapacity.clamped 20 (-10) = Discharging.contract.capacity := by
      norm_num [RegulationCapacity.clamped, RegulationCapacity.snap_of_one_le, Discharging.contract]
    exact own ▸ RegulationCapacity.lawful_clamped 20 (-10)
  have regulated : Discharging.contract.tariff.hasRegulation = true := rfl
  have drawn : used.takeRegulation.1 = 15 := by
    change 0 + (Discharging.contract.economicRegulation 10 .epoch).1 = 15
    rw [economicRegulation, if_pos regulated]
    norm_num [Discharging.contract]
  obtain ⟨billed, -, -, controls, some, balances, -⟩ :=
    regulation_drawn_once Discharging.contract 10 1 .epoch .epoch regulated lawful (by norm_num)
      (by norm_num [Discharging.contract]) (by norm_num [Discharging.contract]) zero_le_one le_rfl
  have left : used.capacity = ⟨5, -10⟩ := by
    rw [(controls.fromUp (by rw [drawn]; norm_num)).2, drawn]
    norm_num [Discharging.contract, RegulationCapacity.snap_of_one_le]
  have remaining : used.remainingCapacity.up = 5 / 2 := by
    have half : used.remainingCapacity = used.capacity.scaled ((5 : ℕ) / (10 : ℕ)) := rfl
    rw [half, left]
    norm_num [RegulationCapacity.scaled, RegulationCapacity.clamped,
      RegulationCapacity.snap_of_one_le]
  have last : balanced.capacity.up = 5 / 2 := by
    rw [(balances.fromUp some).2, remaining, left]
    norm_num [RegulationCapacity.snap_of_one_le]
  refine ⟨drawn, ?_, ?_, remaining, last⟩
  · rw [billed, drawn]
    norm_num
  · rw [left]

end Subscription

end RetailMarket
