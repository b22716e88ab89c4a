import RetailMarket.Proofs.ExactQuantity
import RetailMarket.Subscription.Capacity

/-!
# Capacities

Whatever numbers the operations on capacities are given, what comes out keeps its signs, and
nothing in it is closer to zero than the dead band.  For that the numbers need no laws, so it holds
of measured ones and of what is not a number.  Exact capacities of this kind add up without loss:
the sum of two is neither refused nor snapped.
-/

namespace RetailMarket

class UnsignedZero (R : Type) [Quantity R] : Prop where
  zero_not_neg : ¬ (0 : R) < 0

instance : UnsignedZero Float where
  zero_not_neg := by decide

instance : UnsignedZero ℝ where
  zero_not_neg := lt_irrefl 0

namespace RegulationCapacity

section

variable {R : Type} [Quantity R]

/-! ## The dead band -/

/-- Zero, or no closer to it than the dead band. -/
def IsApart (x : R) : Prop := Quantity.magnitude x < deadBand → x = 0

theorem isApart_snap (x : R) : IsApart (snap x) := by
  unfold snap
  split
  · exact fun _ => rfl
  next far => exact fun near => absurd near far

theorem snap_of_isApart {x : R} (apart : IsApart x) : snap x = x := by
  unfold snap
  split
  next near => exact (apart near).symm
  · rfl

theorem not_snap_neg [UnsignedZero R] {x : R} (positive : ¬ x < 0) : ¬ snap x < 0 := by
  unfold snap
  split
  · exact UnsignedZero.zero_not_neg
  · exact positive

theorem not_snap_pos [UnsignedZero R] {x : R} (negative : ¬ 0 < x) : ¬ 0 < snap x := by
  unfold snap
  split
  · exact UnsignedZero.zero_not_neg
  · exact negative

theorem up_setDown (capacity : RegulationCapacity R) (x : R) :
    (capacity.setDown x).up = capacity.up := by
  rw [setDown, setDown?]
  split <;> rfl

/-! ## Lawful capacities -/

structure Lawful (capacity : RegulationCapacity R) : Prop where
  up : ¬ capacity.up < 0
  down : ¬ 0 < capacity.down
  upApart : IsApart capacity.up
  downApart : IsApart capacity.down

theorem lawful_clamped [UnsignedZero R] (up down : R) : (clamped up down).Lawful := by
  have zero : ¬ (0 : R) < 0 := UnsignedZero.zero_not_neg
  have none : IsApart (0 : R) := fun _ => rfl
  refine ⟨?_, ?_, ?_, ?_⟩ <;> simp only [clamped] <;> split
  · exact zero
  next positive => exact not_snap_neg positive
  · exact zero
  next negative => exact not_snap_pos negative
  · exact none
  · exact isApart_snap up
  · exact none
  · exact isApart_snap down

theorem lawful_zero [UnsignedZero R] : (zero : RegulationCapacity R).Lawful :=
  ⟨UnsignedZero.zero_not_neg, UnsignedZero.zero_not_neg, fun _ => rfl, fun _ => rfl⟩

namespace Lawful

variable {capacity : RegulationCapacity R}

theorem setUp (lawful : capacity.Lawful) (x : R) : (capacity.setUp x).Lawful := by
  unfold RegulationCapacity.setUp setUp?
  split
  · exact lawful
  next positive => exact { lawful with up := positive, upApart := isApart_snap x }

theorem setDown (lawful : capacity.Lawful) (x : R) : (capacity.setDown x).Lawful := by
  unfold RegulationCapacity.setDown setDown?
  split
  · exact lawful
  next negative => exact { lawful with down := negative, downApart := isApart_snap x }

theorem add (lawful : capacity.Lawful) (other : RegulationCapacity R) :
    (capacity.add other).Lawful :=
  (lawful.setUp _).setDown _

theorem addUp (lawful : capacity.Lawful) (amount : R) : (capacity.addUp amount).Lawful := by
  unfold RegulationCapacity.addUp
  split
  · exact lawful
  · exact lawful.setUp _

theorem addDown (lawful : capacity.Lawful) (amount : R) : (capacity.addDown amount).Lawful := by
  unfold RegulationCapacity.addDown
  split
  · exact lawful
  · exact lawful.setDown _

end Lawful

/-- The capacities that the operations yield, whatever numbers they are given. -/
inductive Obtained : RegulationCapacity R → Prop
  | clamped (up down : R) : Obtained (clamped up down)
  | setUp {capacity} (x : R) : Obtained capacity → Obtained (capacity.setUp x)
  | setDown {capacity} (x : R) : Obtained capacity → Obtained (capacity.setDown x)
  | add {capacity other} : Obtained capacity → Obtained other → Obtained (capacity.add other)
  | addUp {capacity} (amount : R) : Obtained capacity → Obtained (capacity.addUp amount)
  | addDown {capacity} (amount : R) : Obtained capacity → Obtained (capacity.addDown amount)
  | scaled {capacity} (factor : R) : Obtained capacity → Obtained (capacity.scaled factor)

theorem Obtained.lawful [UnsignedZero R] {capacity : RegulationCapacity R}
    (obtained : capacity.Obtained) : capacity.Lawful := by
  induction obtained with
  | clamped up down => exact lawful_clamped up down
  | setUp x _ ih => exact ih.setUp x
  | setDown x _ ih => exact ih.setDown x
  | add _ _ ih _ => exact ih.add _
  | addUp amount _ ih => exact ih.addUp amount
  | addDown amount _ ih => exact ih.addDown amount
  | scaled factor => exact lawful_clamped _ _

/-! ## Refusals -/

/-- An assignment that is refused has no effect, be it one of its own or part of an addition. -/
structure IgnoresRefused (capacity : RegulationCapacity R) : Prop where
  setUp : ∀ x, capacity.setUp? x = none → capacity.setUp x = capacity
  setDown : ∀ x, capacity.setDown? x = none → capacity.setDown x = capacity
  addUp : ∀ amount, amount < 0 ∨ capacity.setUp? (capacity.up + amount) = none →
    capacity.addUp amount = capacity
  addDown : ∀ amount, 0 < amount ∨ capacity.setDown? (capacity.down + amount) = none →
    capacity.addDown amount = capacity
  addOnlyDown : ∀ other, capacity.setUp? (capacity.up + other.up) = none →
    capacity.add other = capacity.setDown (capacity.down + other.down)
  addOnlyUp : ∀ other, capacity.setDown? (capacity.down + other.down) = none →
    capacity.add other = capacity.setUp (capacity.up + other.up)

theorem ignoresRefused (capacity : RegulationCapacity R) : capacity.IgnoresRefused := by
  have setUp (x : R) (refused : capacity.setUp? x = none) : capacity.setUp x = capacity := by
    rw [RegulationCapacity.setUp, refused, Option.getD_none]
  have setDown (capacity : RegulationCapacity R) (x : R) (refused : capacity.setDown? x = none) :
      capacity.setDown x = capacity := by
    rw [RegulationCapacity.setDown, refused, Option.getD_none]
  refine ⟨setUp, setDown capacity, ?_, ?_, ?_, ?_⟩
  · rintro amount (negative | refused)
    · exact if_pos negative
    · rw [addUp, setUp _ refused, ite_self]
  · rintro amount (positive | refused)
    · exact if_pos positive
    · rw [addDown, setDown capacity _ refused, ite_self]
  · intro other refused
    rw [add, setUp _ refused]
  · intro other refused
    refine setDown _ _ ?_
    simpa [setDown?] using refused

end

/-! ## Exact capacities -/

theorem deadBand_pos : (0 : ℝ) < deadBand := by
  unfold deadBand
  norm_num

theorem snap_neg (x : ℝ) : snap (-x) = -snap x := by
  unfold snap
  rw [Quantity.magnitude_real, Quantity.magnitude_real, abs_neg]
  split
  · exact neg_zero.symm
  · rfl

theorem snap_of_lt {x : ℝ} (near : |x| < deadBand) : snap x = 0 := by
  rw [snap, Quantity.magnitude_real, if_pos near]

theorem snap_of_le {x : ℝ} (far : deadBand ≤ |x|) : snap x = x := by
  rw [snap, Quantity.magnitude_real, if_neg far.not_gt]

theorem snap_of_one_le {x : ℝ} (far : 1 ≤ |x|) : snap x = x := by
  refine snap_of_le (le_trans ?_ far)
  norm_num [deadBand]

theorem snap_bounds {x : ℝ} (positive : 0 ≤ x) : 0 ≤ snap x ∧ snap x ≤ x := by
  unfold snap
  split
  · exact ⟨le_rfl, positive⟩
  · exact ⟨positive, le_rfl⟩

theorem lt_snap_add (x : ℝ) : x < snap x + deadBand := by
  have band := deadBand_pos
  unfold snap
  rw [Quantity.magnitude_real]
  split
  next near => exact (le_abs_self x).trans_lt (near.trans_eq (zero_add _).symm)
  next => exact lt_add_of_pos_right x band

theorem snap_lt_zero_iff (x : ℝ) : snap x < 0 ↔ x ≤ -deadBand := by
  have band := deadBand_pos
  unfold snap
  rw [Quantity.magnitude_real]
  split
  next near =>
    have above : -deadBand < x := (abs_lt.1 near).1
    exact ⟨fun zero => absurd zero (lt_irrefl 0), fun below => absurd below above.not_ge⟩
  next far =>
    refine ⟨fun negative => ?_, fun below => by linarith⟩
    rw [abs_of_neg negative, not_lt] at far
    linarith

theorem zero_lt_snap_iff (x : ℝ) : 0 < snap x ↔ deadBand ≤ x := by
  have mirrored := snap_lt_zero_iff (-x)
  rwa [snap_neg, neg_lt_zero, neg_le_neg_iff] at mirrored

theorem setUp?_eq_none_iff (capacity : RegulationCapacity ℝ) (x : ℝ) :
    capacity.setUp? x = none ↔ x ≤ -deadBand := by
  rw [← snap_lt_zero_iff, setUp?, ite_eq_left_iff]
  simp

theorem setDown?_eq_none_iff (capacity : RegulationCapacity ℝ) (x : ℝ) :
    capacity.setDown? x = none ↔ deadBand ≤ x := by
  rw [← zero_lt_snap_iff, setDown?, ite_eq_left_iff]
  simp

theorem setUp?_of_nonneg (capacity : RegulationCapacity ℝ) {x : ℝ} (positive : 0 ≤ x) :
    capacity.setUp? x = some { capacity with up := snap x } :=
  if_neg (not_snap_neg positive.not_gt)

theorem setDown?_of_nonpos (capacity : RegulationCapacity ℝ) {x : ℝ} (negative : x ≤ 0) :
    capacity.setDown? x = some { capacity with down := snap x } :=
  if_neg (not_snap_pos negative.not_gt)

theorem up_setUp (capacity : RegulationCapacity ℝ) {x : ℝ} (positive : 0 ≤ x) :
    0 ≤ (capacity.setUp x).up ∧ (capacity.setUp x).up ≤ x := by
  rw [setUp, setUp?_of_nonneg capacity positive]
  exact snap_bounds positive

theorem up_clamped (up down : ℝ) : 0 ≤ (clamped up down).up ∧ (clamped up down).up ≤ max up 0 := by
  simp only [clamped]
  split
  · exact ⟨le_rfl, le_max_right up 0⟩
  next positive =>
    have bounds := snap_bounds (not_lt.1 positive)
    exact ⟨bounds.1, bounds.2.trans (le_max_left up 0)⟩

theorem down_clamped_zero (up : ℝ) : (clamped up 0).down = 0 := by
  simp only [clamped, lt_irrefl, snap, ite_self]

theorem up_scaled_le (capacity : RegulationCapacity ℝ) {share : ℝ} (positive : 0 ≤ share)
    (part : share ≤ 1) : (capacity.scaled share).up ≤ max capacity.up 0 := by
  refine (up_clamped _ _).2.trans (max_le ?_ (le_max_right _ _))
  rcases le_total 0 capacity.up with consumed | produced
  · exact (mul_le_of_le_one_right consumed part).trans (le_max_left _ _)
  · exact (mul_nonpos_of_nonpos_of_nonneg produced positive).trans (le_max_right _ _)

/-! ### Sums -/

theorem IsApart.add {x y : ℝ} (first : IsApart x) (second : IsApart y)
    (sides : 0 ≤ x ∧ 0 ≤ y ∨ x ≤ 0 ∧ y ≤ 0) : IsApart (x + y) := by
  unfold IsApart at *
  rw [Quantity.magnitude_real] at *
  intro near
  rw [(abs_add_eq_add_abs_iff x y).2 sides] at near
  have left : x = 0 := first ((le_add_of_nonneg_right (abs_nonneg y)).trans_lt near)
  have right : y = 0 := second ((le_add_of_nonneg_left (abs_nonneg x)).trans_lt near)
  rw [left, right, add_zero]

namespace Lawful

variable {first second third : RegulationCapacity ℝ}

theorem up_nonneg (lawful : first.Lawful) : 0 ≤ first.up := not_lt.1 lawful.up

theorem down_nonpos (lawful : first.Lawful) : first.down ≤ 0 := not_lt.1 lawful.down

theorem setUp?_add (left : first.Lawful) (right : second.Lawful) :
    first.setUp? (first.up + second.up) = some { first with up := first.up + second.up } := by
  have apart := left.upApart.add right.upApart (.inl ⟨left.up_nonneg, right.up_nonneg⟩)
  rw [setUp?_of_nonneg first (add_nonneg left.up_nonneg right.up_nonneg), snap_of_isApart apart]

theorem setDown?_add (left : first.Lawful) (right : second.Lawful)
    (capacity : RegulationCapacity ℝ) :
    capacity.setDown? (first.down + second.down) =
      some { capacity with down := first.down + second.down } := by
  have apart := left.downApart.add right.downApart (.inr ⟨left.down_nonpos, right.down_nonpos⟩)
  rw [setDown?_of_nonpos capacity (add_nonpos left.down_nonpos right.down_nonpos),
    snap_of_isApart apart]

theorem add_eq (left : first.Lawful) (right : second.Lawful) :
    first.add second = ⟨first.up + second.up, first.down + second.down⟩ := by
  rw [RegulationCapacity.add, RegulationCapacity.setUp, setUp?_add left right, Option.getD_some,
    RegulationCapacity.setDown, setDown?_add left right, Option.getD_some]

theorem add_comm (left : first.Lawful) (right : second.Lawful) :
    first.add second = second.add first := by
  rw [add_eq left right, add_eq right left]
  congr 1 <;> ring

theorem add_assoc (left : first.Lawful) (middle : second.Lawful) (right : third.Lawful) :
    (first.add second).add third = first.add (second.add third) := by
  rw [add_eq (left.add second) right, add_eq left (middle.add third), add_eq left middle,
    add_eq middle right]
  congr 1 <;> ring

end Lawful

/-- Every capacity that the operations yield keeps its signs and the dead band, whatever it was
given, and what is refused has no effect.  An exact assignment is refused only beyond the dead band
on the wrong side.  The sum of two exact capacities is accepted as it is, in any order. -/
theorem obtained_keeps_signs :
    (∀ (R : Type) [Quantity R] [UnsignedZero R] (capacity : RegulationCapacity R),
      capacity.Obtained → capacity.Lawful ∧ capacity.IgnoresRefused) ∧
    ∀ first second third : RegulationCapacity ℝ,
      first.Obtained → second.Obtained → third.Obtained →
        (∀ x, first.setUp? x = none ↔ x ≤ -1e-4) ∧ (∀ x, first.setDown? x = none ↔ 1e-4 ≤ x) ∧
        first.setUp? (first.up + second.up) = some { first with up := first.up + second.up } ∧
        first.setDown? (first.down + second.down) =
          some { first with down := first.down + second.down } ∧
        first.add second = ⟨first.up + second.up, first.down + second.down⟩ ∧
        first.add second = second.add first ∧
        (first.add second).add third = first.add (second.add third) := by
  refine ⟨fun R _ _ capacity obtained => ⟨obtained.lawful, capacity.ignoresRefused⟩, ?_⟩
  intro first second third one two three
  have left := one.lawful
  have middle := two.lawful
  exact ⟨first.setUp?_eq_none_iff, first.setDown?_eq_none_iff, left.setUp?_add middle,
    left.setDown?_add middle first, left.add_eq middle, left.add_comm middle,
    left.add_assoc middle three.lawful⟩

theorem obtained_keeps_signs_refusals :
    let measured : RegulationCapacity Float := ((clamped 3 (-2)).addUp (0 / 0)).setDown 5e-5
    let exact : RegulationCapacity ℝ := (clamped 3 (-2)).setUp (-5e-5)
    (measured.Obtained ∧ exact.Obtained) ∧ ¬ measured.up < 0 ∧
      measured.setDown? 1 = none ∧ measured.setDown 1 = measured ∧
      exact.add (exact.scaled 2) = (exact.scaled 2).add exact := by
  intro measured exact
  have obtained : measured.Obtained := ((Obtained.clamped 3 (-2)).addUp (0 / 0)).setDown 5e-5
  have refused : measured.setDown? 1 = none := if_pos (by decide)
  have own : exact.Obtained := (Obtained.clamped 3 (-2)).setUp (-5e-5)
  obtain ⟨lawful, ignores⟩ := obtained_keeps_signs.1 Float measured obtained
  obtain ⟨-, -, -, -, -, swap, -⟩ :=
    obtained_keeps_signs.2 exact (exact.scaled 2) exact own (own.scaled 2) own
  exact ⟨⟨obtained, own⟩, lawful.up, refused, ignores.setDown 1 refused, swap⟩

end RegulationCapacity

end RetailMarket
