import Mathlib.Tactic.Ring
import RetailMarket.Customer.Sampled

/-!
# Hours of the clock

A clock counts hours without a seam at the epoch; the hour of the day is its count modulo 24.  The
count that picks a place in a usage curve drops a part of an hour toward the epoch: before the epoch
it is an hour ahead of the clock, except on the hour.  So the curve repeats through all of time but
for the instants whose repetition is no longer ahead.
-/

namespace RetailMarket

namespace Instant

/-- The number of the hour that an instant lies in, as a clock counts them from the epoch. -/
def clockHour (time : Instant) : Int := Int.fdiv time.millis hourLength

/-- Before the epoch and not on the hour. -/
def IsAhead (time : Instant) : Prop := time.millis < 0 ∧ ¬ hourLength ∣ time.millis

instance (time : Instant) : Decidable time.IsAhead :=
  inferInstanceAs (Decidable (time.millis < 0 ∧ ¬ hourLength ∣ time.millis))

theorem clockHour_eq (time : Instant) : time.clockHour = time.millis / 3600000 :=
  Int.fdiv_eq_ediv_of_nonneg _ (by decide)

theorem clockHour_ofHours (hour : Int) : (ofHours hour).clockHour = hour := by
  simp only [clockHour_eq, ofHours, hourLength]
  omega

theorem clockHour_plusHours (time : Instant) (hours : Int) :
    (time.plusHours hours).clockHour = time.clockHour + hours := by
  simp only [clockHour_eq, plusHours, plus, hourLength]
  omega

theorem ofHours_plusHours (hour hours : Int) :
    (ofHours hour).plusHours hours = .ofHours (hour + hours) := by
  simp only [plusHours, plus, ofHours]
  ring_nf

theorem ofHours_clockHour_le (time : Instant) : ofHours time.clockHour ≤ time := by
  change time.clockHour * hourLength ≤ time.millis
  rw [clockHour_eq, hourLength]
  omega

theorem not_ofHours_succ_le (time : Instant) : ¬ ofHours (time.clockHour + 1) ≤ time := by
  change ¬ (time.clockHour + 1) * hourLength ≤ time.millis
  rw [clockHour_eq, hourLength]
  omega

theorem hourOfDay_eq (time : Instant) : time.hourOfDay = (time.clockHour % 24).toNat := by
  rw [clockHour_eq, hourOfDay, Int.fmod_eq_emod_of_nonneg _ (by decide)]
  simp only [dayLength, hourLength]
  omega

theorem hourOfDay_lt (time : Instant) : time.hourOfDay < 24 := by
  rw [hourOfDay_eq]
  omega

theorem not_isAhead_ofHours (hour : Int) : ¬ (ofHours hour).IsAhead :=
  fun ahead => ahead.2 (Dvd.intro_left hour rfl)

theorem not_isAhead_plusHours {time : Instant} (level : ¬ time.IsAhead) {hours : Int}
    (positive : 0 ≤ hours) : ¬ (time.plusHours hours).IsAhead := by
  simp only [IsAhead, plusHours, plus, hourLength] at *
  omega

theorem wholeHours_eq (time : Instant) :
    time.wholeHours = if time.IsAhead then time.clockHour + 1 else time.clockHour := by
  rw [clockHour_eq, wholeHours, Int.tdiv_eq_ediv]
  by_cases ahead : time.IsAhead
  · rw [if_pos ahead, if_neg fun exact => exact.elim ahead.1.not_ge ahead.2]
    rfl
  · have exact : 0 ≤ time.millis ∨ hourLength ∣ time.millis := by
      by_contra neither
      rw [not_or, not_le] at neither
      exact ahead neither
    rw [if_neg ahead, if_pos exact]
    exact add_zero _

/-- The hour around the epoch lasts two hours of the clock. -/
example : Instant.wholeHours ⟨-1⟩ = Instant.wholeHours ⟨1⟩ ∧
    Instant.clockHour ⟨-1⟩ + 1 = Instant.clockHour ⟨1⟩ := by
  decide

end Instant

namespace SampledCustomer

variable {G R : Type} [Quantity R] (model : SampledCustomer G R)

/-- The usage of the hour with a number, from which the curve repeats in both directions. -/
def hourly (hour : Int) : R := model.curve.getD (Int.fmod hour model.curve.size).toNat 0

theorem hourly_add_size (hour : Int) :
    model.hourly (hour + model.curve.size) = model.hourly hour := by
  have places (hour : Int) : Int.fmod hour model.curve.size = hour % model.curve.size :=
    Int.fmod_eq_emod_of_nonneg _ (Int.natCast_nonneg _)
  simp only [hourly, places, Int.add_emod_right]

theorem usageAt_ofHours (hour : Int) : model.usageAt (.ofHours hour) = model.hourly hour := by
  rw [usageAt, Instant.wholeHours_eq, if_neg (Instant.not_isAhead_ofHours hour),
    Instant.clockHour_ofHours, hourly]

/-- An instant that is ahead has the usage of the next hour of the clock, any other that of its
own. -/
theorem usageAt_eq (time : Instant) :
    let hour := Instant.ofHours time.clockHour
    model.usageAt time = model.usageAt (if time.IsAhead then hour.plusHours 1 else hour) := by
  intro hour
  rw [usageAt, Instant.wholeHours_eq, ← hourly]
  split
  · rw [Instant.ofHours_plusHours, usageAt_ofHours]
  · rw [usageAt_ofHours]

theorem usageAt_plusHours_size (time : Instant) :
    let hour := Instant.ofHours time.clockHour
    let later := time.plusHours model.curve.size
    model.usageAt later = model.usageAt (if later.IsAhead then hour.plusHours 1 else hour) := by
  intro hour later
  rw [usageAt_eq, Instant.clockHour_plusHours]
  split
  · rw [Instant.ofHours_plusHours, Instant.ofHours_plusHours, usageAt_ofHours, usageAt_ofHours,
      add_right_comm, hourly_add_size]
  · rw [usageAt_ofHours, usageAt_ofHours, hourly_add_size]

/-- The usage at an instant is that of its hour of the clock unless it is ahead and the next hour has
another usage.  It is the same one length of the curve later unless besides the later instant is no
longer ahead. -/
theorem usageAt_repeats_iff (time : Instant) :
    let hour := Instant.ofHours time.clockHour
    let next := hour.plusHours 1
    let later := time.plusHours model.curve.size
    (hour ≤ time ∧ ¬ next ≤ time ∧ hour.hourOfDay = time.hourOfDay) ∧
      model.usageAt time = model.usageAt (if time.IsAhead then next else hour) ∧
      model.usageAt later = model.usageAt (if later.IsAhead then next else hour) ∧
      (model.usageAt time = model.usageAt hour ↔
        (time.IsAhead → model.usageAt next = model.usageAt hour)) ∧
      (model.usageAt later = model.usageAt time ↔
        (time.IsAhead → ¬ later.IsAhead → model.usageAt next = model.usageAt hour)) := by
  intro hour next later
  have here : model.usageAt time = model.usageAt (if time.IsAhead then next else hour) :=
    model.usageAt_eq time
  have there : model.usageAt later = model.usageAt (if later.IsAhead then next else hour) :=
    model.usageAt_plusHours_size time
  refine ⟨⟨time.ofHours_clockHour_le, ?_, ?_⟩, here, there, ?_, ?_⟩
  · rw [show next = .ofHours (time.clockHour + 1) from Instant.ofHours_plusHours _ 1]
    exact time.not_ofHours_succ_le
  · rw [Instant.hourOfDay_eq, Instant.hourOfDay_eq, Instant.clockHour_ofHours]
  · rw [here]
    split
    next ahead => exact ⟨fun same _ => same, fun same => same ahead⟩
    next level => exact iff_of_true rfl fun ahead => absurd ahead level
  · rw [here, there]
    by_cases ahead : time.IsAhead
    · by_cases still : later.IsAhead
      · rw [if_pos ahead, if_pos still]
        exact iff_of_true rfl fun _ ended => absurd still ended
      · rw [if_pos ahead, if_neg still]
        exact ⟨fun same _ _ => same.symm, fun same => (same ahead still).symm⟩
    · rw [if_neg ahead, if_neg (Instant.not_isAhead_plusHours ahead (Int.natCast_nonneg _))]
      exact iff_of_true rfl fun early => absurd early ahead

end SampledCustomer

end RetailMarket
