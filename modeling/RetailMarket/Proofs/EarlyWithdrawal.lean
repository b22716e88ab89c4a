import RetailMarket.Proofs.Records

/-!
# Early withdrawal

The members of a subscription come and go in any order, at times that never run back.  As long as
64 bits hold the ends of their contracts, the contract records have increasing horizons, whoever
leaves is among those with the earliest ones, and the early withdrawal payment is charged for exactly
the leaving members whose own contract still runs.  An end that comes around spoils all of this.
-/

namespace RetailMarket

/-- A change of the members of a subscription. -/
inductive Turnover where
  | joining (count : Nat)
  | leaving (revoked : Bool) (count : Nat)
  deriving DecidableEq, Repr

namespace Subscription

variable {R : Type} [Quantity R]

def turnOver (subscription : Subscription R) (change : Instant × Turnover) : Subscription R :=
  match change with
  | (now, .joining count) => (subscription.subscribe count now).1
  | (now, .leaving revoked count) => (subscription.release revoked count now).1

def afterAll (subscription : Subscription R) (history : List (Instant × Turnover)) :
    Subscription R :=
  history.foldl turnOver subscription

/-! ## What a history keeps -/

theorem tariff_turnOver (subscription : Subscription R) (change : Instant × Turnover) :
    (subscription.turnOver change).tariff = subscription.tariff := by
  obtain ⟨now, count | ⟨revoked, count⟩⟩ := change
  · rfl
  · exact tariff_release subscription revoked count now

theorem IsRecorded.afterAll {subscription : Subscription R} (recorded : subscription.IsRecorded)
    (history : List (Instant × Turnover)) : (subscription.afterAll history).IsRecorded := by
  induction history generalizing subscription with
  | nil => exact recorded
  | cons change rest ih =>
      obtain ⟨now, count | ⟨revoked, count⟩⟩ := change
      · exact ih (recorded.subscribe count now)
      · exact ih (recorded.release revoked count now)

theorem expirations_release (subscription : Subscription R) (revoked : Bool) (count : Nat)
    (now : Instant) :
    (subscription.release revoked count now).1.expirations =
      ExpirationRecord.release (min count subscription.committed) subscription.expirations :=
  congrArg Commitment.expirations (commitment_release subscription revoked count now)

/-- No contract on record ends after one made now would. -/
def Permits (subscription : Subscription R) (now : Instant) : Prop :=
  ∀ horizon ∈ subscription.expirations.map (·.horizon),
    horizon ≤ now.plus subscription.tariff.minDuration

/-- Whoever joins gets a contract whose end 64 bits hold. -/
def Admits (tariff : Tariff R) (change : Instant × Turnover) : Prop :=
  match change with
  | (now, .joining _) => (now.plus tariff.minDuration).Fits
  | (_, .leaving _ _) => True

omit [Quantity R] in
instance (tariff : Tariff R) (change : Instant × Turnover) : Decidable (Admits tariff change) :=
  match change with
  | (_, .joining _) => inferInstanceAs (Decidable (Instant.Fits _))
  | (_, .leaving _ _) => inferInstanceAs (Decidable True)

theorem Permits.turnOver {subscription : Subscription R} {change : Instant × Turnover}
    (admits : Admits subscription.tariff change) {later : Instant}
    (permits : subscription.Permits later) (timely : change.1 ≤ later) :
    (subscription.turnOver change).Permits later := by
  intro horizon listed
  rw [tariff_turnOver]
  obtain ⟨now, count | ⟨revoked, count⟩⟩ := change
  · rcases ExpirationRecord.horizon_of_mem_enroll listed with old | rfl
    · exact permits horizon old
    · rw [Tariff.contractEnd_of_fits admits]
      exact Int.add_le_add_right timely _
  · simp only [Subscription.turnOver, expirations_release] at listed
    exact permits horizon ((ExpirationRecord.horizons_sublist_of_release _ _).subset listed)

theorem withdraw_postings (subscription : Subscription R) (revoked : Bool) (count : Nat)
    (now : Instant) :
    ((subscription.release revoked count now).2.filter fun posting => posting.kind == .withdraw) =
      [subscription.posting .withdraw (min count subscription.committed) 0
        (((min count subscription.committed - subscription.expiredCount now : Nat) : R) *
          if revoked then 0 else -subscription.tariff.earlyWithdrawPayment)] := by
  simp only [release]
  by_cases fee : subscription.tariff.signupPayment < 0
  · rw [if_pos fee]
    rfl
  · rw [if_neg fee]
    rfl

def horizons (subscription : Subscription R) : List Instant :=
  ExpirationRecord.horizons subscription.expirations

theorem horizons_release (subscription : Subscription R) (revoked : Bool) (count : Nat)
    (now : Instant) :
    (subscription.release revoked count now).1.horizons =
      subscription.horizons.drop (min count subscription.committed) := by
  rw [horizons, expirations_release, ExpirationRecord.horizons_release, horizons]

theorem expiredCount_release {subscription : Subscription R}
    (chronological : ExpirationRecord.Chronological subscription.expirations) (revoked : Bool)
    (count : Nat) (now : Instant) :
    (subscription.release revoked count now).1.expiredCount now =
      subscription.expiredCount now - min count subscription.committed := by
  rw [expiredCount, expirations_release, ExpirationRecord.expiredCount_release chronological,
    expiredCount]

namespace Endless

def tariff : Tariff Float :=
  { Tariff.free ⟨10⟩ "bob" .consumption with
    minDuration := 2 ^ 63 - 1, earlyWithdrawPayment := -5 }

def town : Customer :=
  { id := ⟨1⟩, name := "town", population := 100, powerType := .consumption }

def history : List (Instant × Turnover) :=
  [(⟨0⟩, .joining 10), (⟨dayLength⟩, .joining 10)]

def subscription : Subscription Float := (opened town tariff).afterAll history

end Endless

end Subscription

end RetailMarket
