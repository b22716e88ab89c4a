import Mathlib
import RetailMarket.Proofs.Evaluation
import RetailMarket.Proofs.ExactQuantity

/-!
# The ranking of alternatives

Quantities are ranked by a total order, in which also what is not a number has its place.  So
alternatives of different tariffs have exactly one ranking, from the greatest utility down and from
the newer tariff to the older where utilities are equal.  It does not depend on the order in which
the alternatives were collected, and neither do the shares, whose total is taken over the ranking.
-/

namespace RetailMarket

/-- Of any two quantities one ranks at most as high as the other, and only a quantity itself ranks
as high as it does. -/
class TotalRanking (R : Type) [Quantity R] : Prop where
  total : ∀ x y : R, Quantity.totalLE x y = true ∨ Quantity.totalLE y x = true
  trans : ∀ {x y z : R},
    Quantity.totalLE x y = true → Quantity.totalLE y z = true → Quantity.totalLE x z = true
  antisymm : ∀ {x y : R}, Quantity.totalLE x y = true → Quantity.totalLE y x = true → x = y

instance : TotalRanking ℝ where
  total x y := by simpa [Quantity.totalLE] using le_total x y
  trans first second := by
    simp only [Quantity.totalLE, decide_eq_true_eq] at first second ⊢
    exact first.trans second
  antisymm atMost atLeast := by
    simp only [Quantity.totalLE, decide_eq_true_eq] at atMost atLeast
    exact le_antisymm atMost atLeast

/-! ## Ranks of 64-bit numbers -/

theorem and_signBit_eq_zero_iff (bits : UInt64) :
    bits &&& 0x8000000000000000 = 0 ↔ bits.toNat < 2 ^ 63 := by
  have bound := bits.toNat_lt
  have bit : bits.toNat.testBit 63 = decide (2 ^ 63 ≤ bits.toNat) := by
    rw [Nat.testBit_eq_decide_div_mod_eq]
    congr 1
    exact propext ⟨fun set => by omega, fun high => by omega⟩
  rw [← UInt64.toNat_inj, UInt64.toNat_and]
  change bits.toNat &&& 2 ^ 63 = 0 ↔ _
  rw [Nat.and_two_pow, bit]
  simp

/-- The ranks with a sign bit run backward, below all those without one. -/
theorem toNat_floatRank (x : Float) :
    (floatRank x).toNat =
      if x.toBits.toNat < 2 ^ 63 then 2 ^ 63 + x.toBits.toNat
      else 2 ^ 64 - 1 - x.toBits.toNat := by
  unfold floatRank
  by_cases low : x.toBits.toNat < 2 ^ 63
  · rw [if_pos ((and_signBit_eq_zero_iff _).2 low), if_pos low, UInt64.toNat_or, Nat.or_comm]
    exact (Nat.two_pow_add_eq_or_of_lt low 1).symm
  · rw [if_neg (mt (and_signBit_eq_zero_iff _).1 low), if_neg low, UInt64.toNat_not]
    rfl

theorem floatRank_injective : Function.Injective floatRank := by
  intro x y same
  have ranks := congrArg UInt64.toNat same
  rw [toNat_floatRank, toNat_floatRank] at ranks
  have bound := x.toBits.toNat_lt
  have bound' := y.toBits.toNat_lt
  have bits : x.toBits = y.toBits := by
    rw [← UInt64.toNat_inj]
    split at ranks <;> split at ranks <;> omega
  -- All of a number is in its bits.
  obtain ⟨⟨_, _⟩⟩ := x
  obtain ⟨⟨_, _⟩⟩ := y
  cases bits
  rfl

instance : TotalRanking Float where
  total x y := by simpa [Quantity.totalLE] using UInt64.le_total (floatRank x) (floatRank y)
  trans first second := by
    simp only [Quantity.totalLE, decide_eq_true_eq] at first second ⊢
    exact UInt64.le_trans first second
  antisymm atMost atLeast := by
    simp only [Quantity.totalLE, decide_eq_true_eq] at atMost atLeast
    exact floatRank_injective (UInt64.le_antisymm atMost atLeast)

/-! ## The order of alternatives -/

namespace Alternative

variable {R : Type} [Quantity R]

/-- A greater utility, or the same of a newer tariff. -/
def Outranks (a b : Alternative R) : Prop :=
  Quantity.totalLE a.utility b.utility = false ∨
    a.utility = b.utility ∧ b.tariff.id.number < a.tariff.id.number

theorem precedes_iff_totalLE (a b : Alternative R) : precedes a b = true ↔
    Quantity.totalLE b.utility a.utility = true ∧
      (Quantity.totalLE a.utility b.utility = true →
        b.tariff.id.number ≤ a.tariff.id.number) := by
  cases higher : Quantity.totalLE a.utility b.utility <;> simp [precedes, higher]

variable [TotalRanking R]

theorem precedes_total (a b : Alternative R) : (precedes a b || precedes b a) = true := by
  rw [Bool.or_eq_true, precedes_iff_totalLE, precedes_iff_totalLE]
  have newer := Nat.le_total b.tariff.id.number a.tariff.id.number
  cases up : Quantity.totalLE a.utility b.utility <;>
    cases down : Quantity.totalLE b.utility a.utility
  · have compared := TotalRanking.total a.utility b.utility
    simp [up, down] at compared
  · simp
  · simp
  · simpa using newer

theorem precedes_trans (a b c : Alternative R) (first : precedes a b = true)
    (second : precedes b c = true) : precedes a c = true := by
  rw [precedes_iff_totalLE] at first second ⊢
  obtain ⟨better, newer⟩ := first
  obtain ⟨better', newer'⟩ := second
  refine ⟨TotalRanking.trans better' better, fun equal => ?_⟩
  -- Utilities that come around in a circle are equal, and the ids decide at each step.
  exact (newer' (TotalRanking.trans better equal)).trans (newer (TotalRanking.trans equal better'))

theorem precedes_antisymm {a b : Alternative R} (first : precedes a b = true)
    (second : precedes b a = true) : a.utility = b.utility ∧ a.tariff.id = b.tariff.id := by
  rw [precedes_iff_totalLE] at first second
  have numbers := Nat.le_antisymm (second.2 first.1) (first.2 second.1)
  exact ⟨TotalRanking.antisymm second.1 first.1, congrArg TariffId.mk numbers⟩

theorem precedes_and_precedes_iff (a b : Alternative R) :
    precedes a b = true ∧ precedes b a = true ↔
      a.utility = b.utility ∧ a.tariff.id = b.tariff.id := by
  constructor
  · rintro ⟨first, second⟩
    exact precedes_antisymm first second
  · rintro ⟨utilities, ids⟩
    have itself : Quantity.totalLE b.utility b.utility = true :=
      (TotalRanking.total b.utility b.utility).elim id id
    rw [precedes_iff_totalLE, precedes_iff_totalLE, utilities, ids]
    exact ⟨⟨itself, fun _ => le_rfl⟩, itself, fun _ => le_rfl⟩

theorem outranks_of_precedes {a b : Alternative R} (first : precedes a b = true)
    (apart : a.tariff.id ≠ b.tariff.id) : Outranks a b := by
  rw [precedes_iff_totalLE] at first
  cases higher : Quantity.totalLE a.utility b.utility with
  | false => exact .inl higher
  | true =>
      have numbers : b.tariff.id.number ≠ a.tariff.id.number :=
        fun same => apart (congrArg TariffId.mk same.symm)
      exact .inr ⟨TotalRanking.antisymm higher first.1,
        lt_of_le_of_ne (first.2 higher) numbers⟩

/-! ## One ranking -/

theorem pairwise_precedes_ranked (alternatives : List (Alternative R)) :
    (ranked alternatives).Pairwise fun a b => precedes a b = true :=
  List.pairwise_mergeSort precedes_trans precedes_total alternatives

theorem pairwise_outranks_ranked {alternatives : List (Alternative R)}
    (apart : (alternatives.map (·.tariff.id)).Nodup) :
    (ranked alternatives).Pairwise Outranks := by
  have distinct : (ranked alternatives).Pairwise fun a b => a.tariff.id ≠ b.tariff.id :=
    List.pairwise_map.1 (((perm_ranked alternatives).map _).nodup_iff.2 apart)
  exact (pairwise_precedes_ranked alternatives).imp₂ (fun _ _ => outranks_of_precedes) distinct

theorem ranked_eq_of_perm {collected recollected : List (Alternative R)}
    (apart : (collected.map (·.tariff.id)).Nodup) (reordered : collected.Perm recollected) :
    ranked collected = ranked recollected := by
  have perm := (perm_ranked collected).trans (reordered.trans (perm_ranked recollected).symm)
  refine perm.eq_of_pairwise ?_ (pairwise_precedes_ranked collected)
    (pairwise_precedes_ranked recollected)
  intro a b listed listed' first second
  have member := (perm_ranked collected).subset listed
  have member' := (perm_ranked collected).subset (perm.symm.subset listed')
  exact List.inj_on_of_nodup_map apart member member' (precedes_antisymm first second).2

/-- Alternatives of different tariffs have the same shares in whatever order they were collected.
They are ranked strictly, by descending utility and of equal ones the newer tariff first, and of the
order behind it any two alternatives can be compared, and only those of one utility and one tariff
are equal. -/
theorem shares_order_free {collected recollected : List (Alternative R)}
    (apart : (collected.map (·.tariff.id)).Nodup) (reordered : collected.Perm recollected)
    (sharpness : R) :
    let shares := assignProbabilities sharpness (ranked collected)
    shares = assignProbabilities sharpness (ranked recollected) ∧
      (shares.map fun a => (a.tariff, a.utility)).Perm
        (collected.map fun a => (a.tariff, a.utility)) ∧
      shares.Pairwise Outranks ∧
      (∀ a b : Alternative R, precedes a b = true ∨ precedes b a = true) ∧
      (∀ a b c : Alternative R,
        precedes a b = true → precedes b c = true → precedes a c = true) ∧
      ∀ a b : Alternative R, precedes a b = true ∧ precedes b a = true ↔
        a.utility = b.utility ∧ a.tariff.id = b.tariff.id := by
  intro shares
  have kept : (shares.map fun a => (a.tariff, a.utility)) =
      (ranked collected).map fun a => (a.tariff, a.utility) := by
    simp only [shares, assignProbabilities, List.map_map]
    rfl
  refine ⟨?_, ?_, ?_, fun a b => ?_, precedes_trans, precedes_and_precedes_iff⟩
  · rw [← ranked_eq_of_perm apart reordered]
  · rw [kept]
    exact (perm_ranked collected).map _
  · exact List.pairwise_map.2 (pairwise_outranks_ranked apart)
  · exact Bool.or_eq_true _ _ ▸ precedes_total a b

theorem shares_order_free_tie :
    let offer (id : Nat) : Tariff Float := Tariff.free ⟨id⟩ "bob" .consumption
    let unsound : Alternative Float := scored (offer 1) (0.0 / 0.0)
    let older : Alternative Float := scored (offer 2) 0.5
    let newer : Alternative Float := scored (offer 3) 0.5
    let shares := assignProbabilities 2.0 (ranked [older, newer, unsound])
    shares = assignProbabilities 2.0 (ranked [newer, unsound, older]) ∧
      shares.map (·.tariff.id.number) = [1, 3, 2] ∧ shares.Pairwise Outranks := by
  intro offer unsound older newer shares
  have apart : ([older, newer, unsound].map (·.tariff.id)).Nodup := by decide
  have reordered : [older, newer, unsound].Perm [newer, unsound, older] :=
    @List.perm_append_comm _ [older] [newer, unsound]
  obtain ⟨same, -, strict, -⟩ := shares_order_free apart reordered 2.0
  have order : ranked [older, newer, unsound] = [unsound, newer, older] := by
    have tie : precedes older newer = false := by decide
    have first : precedes newer unsound = false := by decide
    simp [ranked, List.mergeSort, tie, first]
  refine ⟨same, ?_, strict⟩
  simp only [shares, order]
  rfl

end Alternative

/-! ## The alternatives of an evaluation -/

namespace Evaluator

variable {R : Type}

theorem nodup_ids_pushUnique {tariffs : List (Tariff R)} (apart : (tariffs.map Tariff.id).Nodup)
    (pushed : Tariff R) : ((pushUnique tariffs pushed).map Tariff.id).Nodup := by
  unfold pushUnique
  split
  next => exact apart
  next new =>
    rw [List.map_append, List.nodup_append]
    refine ⟨apart, List.nodup_singleton _, fun id listed other last same => new ?_⟩
    obtain ⟨earlier, member, rfl⟩ := List.mem_map.1 listed
    rw [List.mem_singleton.1 last] at same
    exact List.any_eq_true.2 ⟨earlier, member, beq_iff_eq.2 same⟩

theorem nodup_ids_pushUnique_all {tariffs : List (Tariff R)}
    (apart : (tariffs.map Tariff.id).Nodup) (pushed : List (Tariff R)) :
    ((pushed.foldl pushUnique tariffs).map Tariff.id).Nodup := by
  induction pushed generalizing tariffs with
  | nil => exact apart
  | cons first rest ih => exact ih (nodup_ids_pushUnique apart first)

variable [Quantity R]

theorem nodup_ids_options (books : Books R) (comparison : Comparison R) (powerType : PowerType)
    (current : Tariff R) (leaving : R) :
    ((options books comparison powerType current leaving).2.map Tariff.id).Nodup := by
  have empty : (([] : List (Tariff R)).map Tariff.id).Nodup := List.nodup_nil
  have collected := nodup_ids_pushUnique_all empty comparison.candidates
  have offered := nodup_ids_pushUnique collected comparison.default
  unfold options
  split <;> exact nodup_ids_pushUnique offered _

theorem pairwise_outranks_options {M : Type} [CustomerModel M R] [TotalRanking R]
    (books : Books R) (comparison : Comparison R) (powerType : PowerType) (current : Tariff R)
    (leaving bonus : R) (e : Evaluator M R) :
    let choices := options books comparison powerType current leaving
    (Alternative.ranked (scoreAll comparison choices.1 e bonus choices.2).1).Pairwise
      Alternative.Outranks := by
  intro choices
  have scored := tariffs_scoreAll comparison choices.1 e bonus choices.2
  have apart := nodup_ids_options books comparison powerType current leaving
  refine Alternative.pairwise_outranks_ranked ?_
  rw [← scored, List.map_map] at apart
  exact apart

end Evaluator

end RetailMarket
