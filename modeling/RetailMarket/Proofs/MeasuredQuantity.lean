import Mathlib
import RetailMarket.Proofs.ExactQuantity

/-!
# Measured quantities

Few laws of arithmetic hold of 64-bit numbers, but some do around zero: a number is on one side of
it, the negative of a negative number is not, and the ranking of all values has the positive numbers
behind zero.  What is not a number is on no side.  Numbers that are not negative have a sum that is
not negative either.  The exact quantities obey the same laws.
-/

namespace RetailMarket

/-- The laws of numbers around zero.  Whatever is at most some value is a number. -/
class SidesOfZero (R : Type) [Quantity R] : Prop where
  nonneg_of_not_neg : ∀ {x : R}, Quantity.isNaN x = false → ¬ x < 0 → 0 ≤ x
  neg_nonneg : ∀ {x : R}, x < 0 → 0 ≤ -x
  ranks_zero : Quantity.totalLE (0 : R) 0 = true
  ranks_positive : ∀ {x y : R}, x ≤ y → ¬ x ≤ 0 → Quantity.totalLE 0 x = true

/-- Numbers that are not at most zero are positive, and terms that are not negative have a number
for their sum exactly if they are numbers. -/
class NonnegativeSums (R : Type) [Quantity R] : Prop where
  pos_of_not_nonpos : ∀ {x : R}, Quantity.isNaN x = false → ¬ x ≤ 0 → 0 < x
  isNaN_of_pos : ∀ {x : R}, 0 < x → Quantity.isNaN x = false
  isNaN_add : ∀ {x y : R}, ¬ x < 0 → ¬ y < 0 →
    Quantity.isNaN (x + y) = (Quantity.isNaN x || Quantity.isNaN y)

theorem Quantity.magnitude_nonneg {R : Type} [Quantity R] [SidesOfZero R] {x : R}
    (number : Quantity.isNaN x = false) : 0 ≤ Quantity.magnitude x := by
  unfold Quantity.magnitude
  split
  next negative => exact SidesOfZero.neg_nonneg negative
  next positive => exact SidesOfZero.nonneg_of_not_neg number positive

instance : SidesOfZero ℝ where
  nonneg_of_not_neg _ positive := not_lt.1 positive
  neg_nonneg negative := neg_nonneg.2 negative.le
  ranks_zero := decide_eq_true le_rfl
  ranks_positive _ positive := decide_eq_true (not_le.1 positive).le

instance : NonnegativeSums ℝ where
  pos_of_not_nonpos _ above := not_le.1 above
  isNaN_of_pos _ := Quantity.isNaN_real _
  isNaN_add _ _ := by simp only [Quantity.isNaN_real, Bool.or_false]

/-! ## Sign bits -/

namespace Measured

section

open Float.Model Float.Model.UnpackedFloat

variable {spec : Format}

theorem getLsbD_of_unpackSign {bits : BitVec spec.numBits} (clear : unpackSign bits = 0#1) :
    bits.getLsbD (spec.mantissaBitsWithoutImplicit + spec.exponentBits) = false := by
  simpa [unpackSign] using congrArg (BitVec.getLsbD · 0) clear

theorem side_of_unpack (bits : BitVec spec.numBits) :
    UnpackedFloat.unpack spec bits = .notANumber ∨
      if unpackSign bits = 0#1 then
        UnpackedFloat.le (.zero .positive) (UnpackedFloat.unpack spec bits) = true
      else UnpackedFloat.le (UnpackedFloat.unpack spec bits) (.zero .positive) = true := by
  have sides (sign : BitVec 1) (unpacked : Sign → UnpackedFloat)
      (above : UnpackedFloat.le (.zero .positive) (unpacked .positive) = true)
      (below : UnpackedFloat.le (unpacked .negative) (.zero .positive) = true) :
      if sign = 0#1 then
        UnpackedFloat.le (.zero .positive) (unpacked (Sign.ofBitVec sign)) = true
      else UnpackedFloat.le (unpacked (Sign.ofBitVec sign)) (.zero .positive) = true := by
    unfold Sign.ofBitVec
    split
    · exact above
    · exact below
  unfold UnpackedFloat.unpack
  dsimp only
  split
  · split
    · exact .inr (sides _ .infinity rfl rfl)
    · exact .inl rfl
  · split
    · split
      · exact .inr (sides _ .zero rfl rfl)
      · exact .inr (sides _ (.finite · _ _ _) rfl rfl)
    · exact .inr (sides _ (.finite · _ _ _) rfl rfl)

/-- With the greatest exponent only an infinity is a number. -/
theorem zero_le_unpack_packComponents {exponent : BitVec spec.exponentBits}
    {mantissa : BitVec spec.mantissaBitsWithoutImplicit}
    (number : exponent = -1#_ → mantissa = 0#_) :
    UnpackedFloat.le (.zero .positive)
      (UnpackedFloat.unpack spec (packComponents spec .positive exponent mantissa)) = true := by
  rcases side_of_unpack (packComponents spec .positive exponent mantissa) with none | side
  · unfold UnpackedFloat.unpack at none
    simp only [unpackExponent_packComponents, unpackMantissa_packComponents] at none
    split at none
    next greatest =>
      rw [if_pos (number greatest)] at none
      cases none
    · split at none
      · split at none <;> cases none
      · cases none
  · have clear : Sign.toBitVec .positive = 0#1 := rfl
    rwa [unpackSign_packComponents, if_pos clear] at side

theorem zero_le_unpack_pack {mantissa : Nat} {exponent : Int} (some : 0 < mantissa) :
    UnpackedFloat.le (.zero .positive) (UnpackedFloat.unpack spec
      (UnpackedFloat.pack spec (.finite .positive mantissa exponent some))) = true := by
  unfold UnpackedFloat.pack
  dsimp only
  split
  · exact zero_le_unpack_packComponents fun _ => rfl
  next small =>
    have greatest : BitVec.toNat (-1#(spec.exponentBits)) = 2 ^ spec.exponentBits - 1 := by
      rw [BitVec.neg_one_eq_allOnes, BitVec.toNat_allOnes]
    split
    · refine zero_le_unpack_packComponents fun same => absurd (congrArg BitVec.toNat same) ?_
      rw [greatest, BitVec.toNat_ofNat, Nat.mod_eq_of_lt (by omega)]
      omega
    · refine zero_le_unpack_packComponents fun same => absurd (congrArg BitVec.toNat same) ?_
      have wide : 2 ≤ 2 ^ spec.exponentBits := Nat.le_self_pow (Nat.pos_iff_ne_zero.1 spec.he) 2
      rw [greatest, BitVec.toNat_zero]
      omega

/-! ## Sums -/

theorem exists_of_zero_le {unpacked : UnpackedFloat}
    (least : UnpackedFloat.le (.zero .positive) unpacked = true) :
    (∃ sign, unpacked = .zero sign) ∨ unpacked = .infinity .positive ∨
      ∃ mantissa exponent some, unpacked = .finite .positive mantissa exponent some := by
  cases unpacked with
  | notANumber => cases least
  | zero sign => exact .inl ⟨sign, rfl⟩
  | infinity sign =>
      cases sign with
      | negative => cases least
      | positive => exact .inr (.inl rfl)
  | finite sign mantissa exponent some =>
      cases sign with
      | negative => cases least
      | positive => exact .inr (.inr ⟨mantissa, exponent, some, rfl⟩)

theorem zero_le_normalize {mantissa exponent : Int} (positive : 0 < mantissa) (zeroSign : Sign) :
    UnpackedFloat.le (.zero .positive)
      (UnpackedFloat.normalize spec mantissa exponent zeroSign) = true := by
  have above : compare mantissa 0 = .gt := Int.compare_eq_gt.2 positive
  unfold UnpackedFloat.normalize
  rw [above]
  unfold UnpackedFloat.round UnpackedFloat.roundWithAccuracy
  dsimp only
  split <;> rfl

theorem zero_le_add {u v : UnpackedFloat}
    (first : UnpackedFloat.le (.zero .positive) u = true)
    (second : UnpackedFloat.le (.zero .positive) v = true) :
    UnpackedFloat.le (.zero .positive) (UnpackedFloat.add spec u v) = true := by
  obtain ⟨sign, rfl⟩ | rfl | ⟨mantissa, exponent, some, rfl⟩ := exists_of_zero_le first
  all_goals obtain ⟨sign', rfl⟩ | rfl | ⟨mantissa', exponent', some', rfl⟩ :=
    exists_of_zero_le second
  · cases sign <;> cases sign' <;> rfl
  any_goals rfl
  -- Two finite terms are brought to one exponent, which keeps their mantissas positive.
  refine zero_le_normalize ?_ _
  have large : 0 < mantissa <<< (exponent - min exponent exponent').toNat := by
    rw [Nat.shiftLeft_eq]
    positivity
  have large' : 0 < mantissa' <<< (exponent' - min exponent exponent').toNat := by
    rw [Nat.shiftLeft_eq]
    positivity
  simp only [Sign.apply]
  omega

end

/-! ## 64-bit numbers -/

open Float.Model

theorem le_iff {x y : Float} :
    x ≤ y ↔ UnpackedFloat.le x.toModel.unpack y.toModel.unpack = true :=
  decide_eq_true_iff (p := x.toModel ≤ y.toModel)

theorem lt_iff {x y : Float} :
    x < y ↔ UnpackedFloat.lt x.toModel.unpack y.toModel.unpack = true :=
  decide_eq_true_iff (p := x.toModel < y.toModel)

theorem unpack_zero : (0 : Float).toModel.unpack = .zero .positive := by rfl

theorem isNaN_iff {x : Float} :
    Quantity.isNaN x = true ↔ x.toModel.unpack = .notANumber := by
  have itself : (x == x) = UnpackedFloat.beq x.toModel.unpack x.toModel.unpack := rfl
  rw [Quantity.isNaN, Bool.not_eq_true', itself, Bool.eq_false_iff, ne_eq,
    UnpackedFloat.beq_iff_ne_notANumber_and_eq]
  tauto

theorem isNaN_eq_false_iff {x : Float} :
    Quantity.isNaN x = false ↔ x.toModel.unpack ≠ .notANumber := by
  rw [Bool.eq_false_iff, ne_eq, isNaN_iff]

theorem nonneg_of_not_neg {x : Float} (number : Quantity.isNaN x = false) (positive : ¬ x < 0) :
    0 ≤ x := by
  rw [lt_iff, unpack_zero] at positive
  rw [le_iff, unpack_zero]
  cases unpacked : x.toModel.unpack with
  | notANumber => exact absurd unpacked (isNaN_eq_false_iff.1 number)
  | zero sign => rfl
  | infinity sign | finite sign =>
      rw [unpacked] at positive
      cases sign with
      | negative => exact absurd rfl positive
      | positive => rfl

theorem neg_nonneg {x : Float} (negative : x < 0) : 0 ≤ -x := by
  rw [lt_iff, unpack_zero] at negative
  rw [le_iff, unpack_zero]
  change UnpackedFloat.le (.zero .positive) (UnpackedFloat.unpack .binary64
    (UnpackedFloat.pack .binary64 x.toModel.unpack.neg)) = true
  cases unpacked : x.toModel.unpack with
  | notANumber | zero sign =>
      rw [unpacked] at negative
      cases negative
  | infinity sign =>
      rw [unpacked] at negative
      cases sign with
      | negative => exact zero_le_unpack_packComponents fun _ => rfl
      | positive => cases negative
  | finite sign mantissa exponent some =>
      rw [unpacked] at negative
      cases sign with
      | negative => exact zero_le_unpack_pack some
      | positive => cases negative

theorem ranks_positive {x y : Float} (least : x ≤ y) (positive : ¬ x ≤ 0) :
    Quantity.totalLE 0 x = true := by
  rw [le_iff] at least positive
  rw [unpack_zero] at positive
  have sign : @UnpackedFloat.unpackSign .binary64 x.toBits.toBitVec = 0#1 := by
    rcases @side_of_unpack .binary64 x.toBits.toBitVec with none | side
    · rw [show x.toModel.unpack = .notANumber from none] at least
      cases least
    · by_contra negative
      rw [if_neg negative] at side
      exact positive side
  have clear : x.toBits &&& 0x8000000000000000 = 0 := by
    have bit : x.toBits.toBitVec.getLsbD 63 = false :=
      @getLsbD_of_unpackSign .binary64 _ sign
    have mask : (0x8000000000000000 : UInt64).toBitVec = BitVec.twoPow 64 63 := by rfl
    rw [← UInt64.toBitVec_inj, UInt64.toBitVec_and, mask, BitVec.and_twoPow, bit]
    rfl
  have rank : floatRank x = x.toBits ||| 0x8000000000000000 := if_pos clear
  have rankZero : floatRank 0 = 0x8000000000000000 := by rfl
  refine decide_eq_true (p := floatRank 0 ≤ floatRank x) ?_
  rw [rank, rankZero, UInt64.le_iff_toNat_le, UInt64.toNat_or]
  exact Nat.right_le_or

theorem pos_of_not_nonpos {x : Float} (number : Quantity.isNaN x = false) (above : ¬ x ≤ 0) :
    0 < x := by
  rw [le_iff, unpack_zero] at above
  rw [lt_iff, unpack_zero]
  cases unpacked : x.toModel.unpack with
  | notANumber => exact absurd unpacked (isNaN_eq_false_iff.1 number)
  | zero sign =>
      rw [unpacked] at above
      exact absurd rfl above
  | infinity sign | finite sign =>
      rw [unpacked] at above
      cases sign with
      | negative => exact absurd rfl above
      | positive => rfl

theorem isNaN_of_nonneg {x : Float} (nonneg : 0 ≤ x) : Quantity.isNaN x = false := by
  refine isNaN_eq_false_iff.2 fun none => ?_
  rw [le_iff, none] at nonneg
  cases nonneg

theorem isNaN_of_pos {x : Float} (positive : 0 < x) : Quantity.isNaN x = false := by
  refine isNaN_eq_false_iff.2 fun none => ?_
  rw [lt_iff, none] at positive
  cases positive

theorem add_nonneg {x y : Float} (first : 0 ≤ x) (second : 0 ≤ y) : 0 ≤ x + y := by
  rw [le_iff, unpack_zero] at first second ⊢
  have sum : UnpackedFloat.le (.zero .positive)
      (UnpackedFloat.add .binary64 x.toModel.unpack y.toModel.unpack) = true :=
    zero_le_add first second
  change UnpackedFloat.le (.zero .positive) (UnpackedFloat.unpack .binary64
    (UnpackedFloat.pack .binary64 (UnpackedFloat.add .binary64 _ _))) = true
  obtain ⟨sign, same⟩ | same | ⟨mantissa, exponent, some, same⟩ := exists_of_zero_le sum
  · rw [same]
    cases sign <;> rfl
  · rw [same]
    exact zero_le_unpack_packComponents fun _ => rfl
  · rw [same]
    exact zero_le_unpack_pack some

theorem isNaN_add {x y : Float} (first : ¬ x < 0) (second : ¬ y < 0) :
    Quantity.isNaN (x + y) = (Quantity.isNaN x || Quantity.isNaN y) := by
  have unsound (missing : UnpackedFloat.add .binary64 x.toModel.unpack y.toModel.unpack =
      .notANumber) : Quantity.isNaN (x + y) = true := by
    refine isNaN_iff.2 ?_
    change UnpackedFloat.unpack .binary64
      (UnpackedFloat.pack .binary64 (UnpackedFloat.add .binary64 _ _)) = _
    rw [missing]
    exact UnpackedFloat.unpack_packedNaN
  cases number : Quantity.isNaN x with
  | true =>
      refine unsound ?_
      rw [isNaN_iff.1 number]
      rfl
  | false =>
      cases number' : Quantity.isNaN y with
      | true =>
          refine unsound ?_
          rw [isNaN_iff.1 number']
          cases x.toModel.unpack <;> rfl
      | false =>
          exact isNaN_of_nonneg
            (add_nonneg (nonneg_of_not_neg number first) (nonneg_of_not_neg number' second))

end Measured

instance : NonnegativeSums Float where
  pos_of_not_nonpos := Measured.pos_of_not_nonpos
  isNaN_of_pos := Measured.isNaN_of_pos
  isNaN_add := Measured.isNaN_add

instance : SidesOfZero Float where
  nonneg_of_not_neg := Measured.nonneg_of_not_neg
  neg_nonneg := Measured.neg_nonneg
  ranks_zero := by decide
  ranks_positive := Measured.ranks_positive

end RetailMarket
