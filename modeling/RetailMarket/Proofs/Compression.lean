import RetailMarket.Proofs.Choice

/-!
# The compression of utilities

Over exact numbers compression keeps the order of utilities up to the linear bound, and of those
above it.  It does not keep the order across the bound: the logarithm of a small excess is negative
without limit, so that a utility just above the bound falls below others, and below the lower clamp.
-/

namespace RetailMarket

namespace Utility

variable {u v : ℝ}

/-- `v` exceeds the linear bound by so little that its logarithm takes it below the lower `u`. -/
structure Dips (u v : ℝ) : Prop where
  within : u ≤ 7
  above : 7 < v
  little : v < 7 + (10 : ℝ) ^ (max u (-7) - 7)

/-! ## The two branches -/

theorem constrained_of_le (within : u ≤ 7) : constrained u = max u (-7) := by
  have bound : (linearBound : ℝ) = 7 := by norm_num [linearBound]
  rw [constrained, bound, if_neg (not_lt.2 within)]
  split
  next below => exact (max_eq_right below.le).symm
  next inside => exact (max_eq_left (not_lt.1 inside)).symm

theorem constrained_of_lt (above : 7 < u) :
    constrained u = min (7 + Real.logb 10 (u - 7)) 14 := by
  have bound : (linearBound : ℝ) = 7 := by norm_num [linearBound]
  have twice : (7 : ℝ) * 2.0 = 14 := by norm_num
  rw [constrained, bound, if_pos above, Quantity.smaller_real, twice]
  rfl

theorem constrained_le (u : ℝ) : constrained u ≤ 14 := by
  rcases le_or_gt u 7 with within | above
  · rw [constrained_of_le within]
    exact max_le (within.trans (by norm_num)) (by norm_num)
  · rw [constrained_of_lt above]
    exact min_le_right _ _

theorem monotoneOn_linear : MonotoneOn (constrained : ℝ → ℝ) (Set.Iic 7) := by
  intro u lower v upper le
  rw [constrained_of_le lower, constrained_of_le upper]
  exact max_le_max_right _ le

theorem monotoneOn_logarithmic : MonotoneOn (constrained : ℝ → ℝ) (Set.Ioi 7) := by
  intro u lower v upper le
  rw [constrained_of_lt lower, constrained_of_lt upper]
  have ten : (1 : ℝ) < 10 := by norm_num
  have order : Real.logb 10 (u - 7) ≤ Real.logb 10 (v - 7) :=
    (Real.logb_le_logb ten (sub_pos.2 lower) (sub_pos.2 upper)).2 (sub_le_sub_right le 7)
  exact min_le_min_right _ (by linarith)

/-! ## Across the bound -/

theorem constrained_le_of_across (within : u ≤ 7) (above : 7 < v) :
    constrained u ≤ constrained v ↔ 7 + (10 : ℝ) ^ (max u (-7) - 7) ≤ v := by
  have cap : max u (-7) ≤ 14 := max_le (within.trans (by norm_num)) (by norm_num)
  rw [constrained_of_le within, constrained_of_lt above, le_min_iff, and_iff_left cap,
    ← sub_le_iff_le_add', Real.le_logb_iff_rpow_le (by norm_num) (sub_pos.2 above),
    le_sub_iff_add_le']

theorem constrained_le_constrained_iff (le : u ≤ v) :
    constrained u ≤ constrained v ↔ ¬ Dips u v := by
  rcases le_or_gt v 7 with within | above
  · exact iff_of_true (monotoneOn_linear (le.trans within) within le)
      fun dips => dips.above.not_ge within
  · rcases le_or_gt u 7 with below | beyond
    · rw [constrained_le_of_across below above, ← not_lt]
      exact not_congr ⟨fun little => ⟨below, above, little⟩, fun dips => dips.little⟩
    · exact iff_of_true (monotoneOn_logarithmic beyond above le)
        fun dips => beyond.not_ge dips.within

theorem neg_seven_le_constrained_iff (v : ℝ) : -7 ≤ constrained v ↔ ¬ Dips (-7) v := by
  have least : constrained (-7 : ℝ) = -7 := by
    rw [constrained_of_le (by norm_num), max_self]
  rcases le_or_gt (-7) v with le | below
  · rw [← constrained_le_constrained_iff le, least]
  · have clamped : constrained v = -7 := by
      rw [constrained_of_le (by linarith), max_eq_right below.le]
    refine iff_of_true clamped.ge fun dips => ?_
    linarith [dips.above]

theorem not_dips_of_le (enough : 8 ≤ v) : ¬ Dips u v := by
  rintro ⟨within, -, little⟩
  have gap : max u (-7) - 7 ≤ 0 := sub_nonpos.2 (max_le within (by norm_num))
  have most : (10 : ℝ) ^ (max u (-7) - 7) ≤ 1 :=
    Real.rpow_le_one_of_one_le_of_nonpos (by norm_num) gap
  linarith

end Utility

namespace Alternative

open Utility

/-- Compressed utilities are at most 14, and at least -7 but for those that dip below it.  The order
of two utilities is kept if and only if the greater does not dip below the lower, as none does from
8 on; then an alternative of lower utility is ranked above one of greater utility only where
compression has made them equal, and it is the newer. -/
theorem compression_keeps_order_iff {alternatives : List (Alternative ℝ)}
    (raw : Alternative ℝ → ℝ)
    (compressed : ∀ alternative ∈ alternatives,
      alternative.utility = constrained (raw alternative)) :
    (∀ u : ℝ, constrained u ≤ 14 ∧ (-7 ≤ constrained u ↔ ¬ Dips (-7) u)) ∧
      (∀ u v : ℝ, u ≤ v → (constrained u ≤ constrained v ↔ ¬ Dips u v)) ∧
      (∀ u v : ℝ, Dips u v → v < 8) ∧
      (ranked alternatives).Pairwise fun above below => raw above < raw below →
        Dips (raw above) (raw below) ∨
          above.utility = below.utility ∧ below.tariff.id.number ≤ above.tariff.id.number := by
  refine ⟨fun u => ⟨constrained_le u, neg_seven_le_constrained_iff u⟩,
    fun u v le => constrained_le_constrained_iff le,
    fun u v dips => not_le.1 fun enough => not_dips_of_le enough dips, ?_⟩
  have order := List.pairwise_mergeSort precedes_trans precedes_total alternatives
  refine order.imp_of_mem fun {above below} listed listed' before lower => ?_
  have member := (perm_ranked alternatives).subset listed
  have member' := (perm_ranked alternatives).subset listed'
  rcases (precedes_iff above below).1 before with better | ⟨same, newer⟩
  · refine .inl (not_not.1 fun kept => ?_)
    have le := (constrained_le_constrained_iff lower.le).2 kept
    rw [← compressed above member, ← compressed below member'] at le
    exact better.not_ge le
  · exact .inr ⟨same.symm, newer⟩

theorem compression_keeps_order_iff_dip :
    let plain : Alternative ℝ := scored (Tariff.free ⟨1⟩ "first" .consumption) (constrained 7)
    let better : Alternative ℝ := scored (Tariff.free ⟨2⟩ "second" .consumption) (constrained 7.1)
    constrained (7 : ℝ) = 7 ∧ constrained (7.1 : ℝ) = 6 ∧
      ranked [better, plain] = [plain, better] ∧ Dips 7 7.1 := by
  intro plain better
  have linear : constrained (7 : ℝ) = 7 := by
    rw [constrained_of_le le_rfl]
    norm_num
  have tenth : Real.logb 10 ((7.1 : ℝ) - 7) = -1 := by
    have power : ((7.1 : ℝ) - 7) = (10 : ℝ) ^ (-1 : ℝ) := by
      rw [Real.rpow_neg_one]
      norm_num
    rw [power, Real.logb_rpow (by norm_num) (by norm_num)]
  have dipped : constrained (7.1 : ℝ) = 6 := by
    rw [constrained_of_lt (by norm_num), tenth]
    norm_num
  have order : ranked [better, plain] = [plain, better] := by
    have behind : precedes better plain = false := by
      rw [Bool.eq_false_iff, ne_eq, precedes_iff]
      change ¬ (constrained (7 : ℝ) < constrained 7.1 ∨ constrained (7 : ℝ) = constrained 7.1 ∧ _)
      rw [linear, dipped]
      norm_num
    simp [ranked, List.mergeSort, behind]
  let raw (alternative : Alternative ℝ) : ℝ := if alternative.tariff.id.number = 2 then 7.1 else 7
  have compressed : ∀ alternative ∈ [better, plain],
      alternative.utility = constrained (raw alternative) := by
    intro alternative listed
    rcases List.mem_cons.1 listed with rfl | last
    · rfl
    · rw [List.mem_singleton.1 last]
      rfl
  obtain ⟨-, -, -, ranking⟩ := compression_keeps_order_iff raw compressed
  rw [order] at ranking
  have lower : raw plain < raw better := by
    change (7 : ℝ) < 7.1
    norm_num
  rcases List.rel_of_pairwise_cons ranking List.mem_cons_self lower with dips | ⟨same, -⟩
  · exact ⟨linear, dipped, order, dips⟩
  · change constrained (7 : ℝ) = constrained 7.1 at same
    rw [linear, dipped] at same
    norm_num at same

end Alternative

end RetailMarket
