import Mathlib.Analysis.SpecialFunctions.Log.Base
import Mathlib.Analysis.SpecialFunctions.Pow.Real
import Mathlib.Analysis.SpecialFunctions.Trigonometric.Basic
import RetailMarket.Customer.SampleStream

/-!
# Exact quantities

The real numbers are quantities, and the only ones whose laws are those of arithmetic.  Here the
operations of the market are those of an ordered field: every value is a number, and one signed
zero is the other.
-/

namespace RetailMarket

/-- The whole part toward zero, kept within signed 64 bits. -/
noncomputable def ExactValue.wholePartOfReal (x : ℝ) : Int :=
  max leastWhole (min (if x < 0 then ⌈x⌉ else ⌊x⌋) greatestWhole)

noncomputable instance : Quantity ℝ where
  beq x y := decide (x = y)
  decidableLT := inferInstance
  decidableLE := inferInstance
  totalLE x y := decide (x ≤ y)
  wholePart := ExactValue.wholePartOfReal
  exp := Real.exp
  log := Real.log
  log10 := Real.logb 10
  power x y := x ^ y
  sqrt := Real.sqrt
  sin := Real.sin
  cos := Real.cos

/-- The stream of a run, with the upper 53 of its 64 bits as an exact share of one. -/
structure ExactStream where
  bits : ChaChaStream

noncomputable instance : SampleSource ExactStream ℝ where
  ofSeed seed := ⟨.ofSeed seed⟩
  next stream :=
    (((stream.bits.nextBits.1 >>> 11).toNat : ℝ) / 9007199254740992, ⟨stream.bits.nextBits.2⟩)

namespace Quantity

instance : LawfulBEq ℝ where
  eq_of_beq := of_decide_eq_true
  rfl := decide_eq_true rfl

@[simp]
theorem isNaN_real (x : ℝ) : isNaN x = false := by
  simp [isNaN]

theorem magnitude_real (x : ℝ) : magnitude x = |x| := by
  unfold magnitude
  split
  next negative => exact (abs_of_neg negative).symm
  next positive => exact (abs_of_nonneg (not_lt.1 positive)).symm

theorem larger_real (x y : ℝ) : larger x y = max x y := by
  simp only [larger, isNaN_real, Bool.false_eq_true, or_false]
  split
  next above => exact (max_eq_left above.le).symm
  next below => exact (max_eq_right (not_lt.1 below)).symm

theorem smaller_real (x y : ℝ) : smaller x y = min x y := by
  simp only [smaller, isNaN_real, Bool.false_eq_true, or_false]
  split
  next below => exact (min_eq_left below.le).symm
  next above => exact (min_eq_right (not_lt.1 above)).symm

end Quantity

end RetailMarket
