import RetailMarket.Proofs.EarlyWithdrawal
import RetailMarket.Proofs.ExactQuantity
import RetailMarket.Proofs.Requests

/-!
# Emptied subscriptions

A subscription that its last members have left is without capacity, and nobody waits to leave it.
The regulation exercised over them is forgotten if exactly as many were to leave as there were.  If
more were to leave, it stays until it is taken or power is used.
-/

namespace RetailMarket

variable {R : Type}

/-- Neither zero adds anything, and no curtailment is in a zero. -/
class Neutral (R : Type) [Quantity R] : Prop where
  zero_add_zero : (0 : R) + 0 = 0
  zero_add_neg_zero : (0 : R) + -0 = 0
  curtailment (powerType : PowerType) :
    (Tariff.usageSign powerType * Quantity.larger (Tariff.usageSign powerType * 0) (0 : R) == 0) =
      true

instance : Neutral Float where
  zero_add_zero := rfl
  zero_add_neg_zero := rfl
  curtailment powerType := by
    unfold Tariff.usageSign
    split <;> decide

instance : Neutral ℝ where
  zero_add_zero := add_zero 0
  zero_add_neg_zero := add_neg_cancel 0
  curtailment powerType := by
    rw [mul_zero, Quantity.larger_real, max_self, mul_zero]
    exact beq_self_eq_true 0

/-! ## Operations -/

/-- What can be done with a subscription. -/
inductive Operation (R : Type) where
  | turnOver (change : Turnover)
  | handle (handling : Handling R)
  | ask (count : Nat)
  | setCapacity (perMember : RegulationCapacity R)
  deriving Repr

namespace Operation

variable [Quantity R]

def perform (now : Instant) : Operation R → Subscription R → Subscription R
  | turnOver change, subscription => subscription.turnOver (now, change)
  | handle handling, subscription => (handling.perform now subscription).1
  | ask count, subscription =>
    { subscription with pendingUnsubscribe := subscription.pendingUnsubscribe + count }
  | setCapacity perMember, subscription => subscription.setCapacity perMember

/-- No control is exercised: no balancing energy is taken, and power is used without regulation. -/
def IsQuiet (now : Instant) (subscription : Subscription R) : Operation R → Prop
  | handle (.usePower kwh) =>
    (subscription.economicRegulation kwh now).1 = 0 ∨
      (subscription.economicRegulation kwh now).1 = -0
  | handle (.balance _) => False
  | _ => True

def forgets (subscription : Subscription R) : Operation R → Bool
  | turnOver (.leaving _ count) => count = subscription.committed
  | handle (.usePower _) | handle .takeRegulation | handle .takeCurtailment => true
  | _ => false

theorem tariff_perform (now : Instant) (operation : Operation R) (subscription : Subscription R) :
    (operation.perform now subscription).tariff = subscription.tariff := by
  cases operation with
  | turnOver change => exact Subscription.tariff_turnOver subscription (now, change)
  | handle handling => cases handling <;> rfl
  | ask | setCapacity => rfl

end Operation

namespace Subscription

variable [Quantity R]

theorem regulation_release (subscription : Subscription R) (revoked : Bool) (count : Nat)
    (now : Instant) :
    (subscription.release revoked count now).1.regulation =
      if count = subscription.committed then 0 else subscription.regulation := by
  simp only [release]
  split <;> rfl

theorem capacity_release {subscription : Subscription R} {revoked : Bool} {count : Nat}
    {now : Instant} (emptied : (subscription.release revoked count now).1.committed = 0) :
    (subscription.release revoked count now).1.capacity = .zero := by
  rw [committed_release] at emptied
  simp only [release, emptied, if_true]

theorem regulation_perform [Neutral R] {now : Instant} {operation : Operation R}
    {subscription : Subscription R} (quiet : operation.IsQuiet now subscription) :
    (operation.perform now subscription).regulation =
      if operation.forgets subscription then 0 else subscription.regulation := by
  cases operation with
  | turnOver change =>
      cases change with
      | joining => rfl
      | leaving revoked count =>
          simp only [Operation.forgets, decide_eq_true_eq]
          exact regulation_release subscription revoked count now
  | handle handling =>
      cases handling with
      | usePower kwh =>
          change 0 + (subscription.economicRegulation kwh now).1 = 0
          simp only [Operation.IsQuiet] at quiet
          rcases quiet with none | none
          · rw [none, Neutral.zero_add_zero]
          · rw [none, Neutral.zero_add_neg_zero]
      | balance => exact quiet.elim
      | postRatio | takeRegulation | takeCurtailment => rfl
  | ask | setCapacity => rfl

/-! ## One operation after another -/

def operated (subscription : Subscription R) (later : List (Instant × Operation R)) :
    Subscription R :=
  later.foldl (fun subscription call => call.2.perform call.1 subscription) subscription

def StaysQuiet : Subscription R → List (Instant × Operation R) → Prop
  | _, [] => True
  | subscription, (now, operation) :: rest =>
    operation.IsQuiet now subscription ∧ StaysQuiet (operation.perform now subscription) rest

def forgets : Subscription R → List (Instant × Operation R) → Bool
  | _, [] => false
  | subscription, (now, operation) :: rest =>
    operation.forgets subscription || forgets (operation.perform now subscription) rest

theorem tariff_operated (subscription : Subscription R) (later : List (Instant × Operation R)) :
    (subscription.operated later).tariff = subscription.tariff := by
  induction later generalizing subscription with
  | nil => rfl
  | cons call rest ih =>
      exact (ih _).trans (call.2.tariff_perform call.1 subscription)

theorem regulation_operated [Neutral R] {subscription : Subscription R}
    {later : List (Instant × Operation R)} (quiet : subscription.StaysQuiet later) :
    (subscription.operated later).regulation =
      if subscription.forgets later then 0 else subscription.regulation := by
  induction later generalizing subscription with
  | nil => rfl
  | cons call rest ih =>
      obtain ⟨now, operation⟩ := call
      obtain ⟨here, onward⟩ := quiet
      have last : (subscription.operated ((now, operation) :: rest)).regulation = _ := ih onward
      rw [last, regulation_perform here, forgets]
      cases operation.forgets subscription <;> simp

/-! ## Nobody left -/

/-- If a withdrawal leaves nobody, it leaves no capacity and nobody waiting to leave.  If as many
were to leave as there were, nothing is taken afterwards until control is exercised again.  If more
were to leave, what could have been taken before can still be taken once. -/
theorem emptied_keeps_regulation [Neutral R] (subscription : Subscription R) (revoked : Bool)
    (count : Nat) (now : Instant)
    (emptied : (subscription.release revoked count now).1.committed = 0) :
    let left := (subscription.release revoked count now).1
    subscription.committed ≤ count ∧ left.capacity = .zero ∧ left.remainingCapacity = .zero ∧
      left.pendingUnsubscribe = 0 ∧
      ∀ later, left.StaysQuiet later →
        ((count = subscription.committed ∨ left.forgets later = true) →
          (left.operated later).takeRegulation.1 = 0 ∧
            ((left.operated later).takeCurtailment.1 == 0) = true) ∧
        (subscription.committed < count → left.forgets later = false →
          (left.operated later).takeRegulation.1 = subscription.takeRegulation.1 ∧
            (left.operated later).takeCurtailment.1 = subscription.takeCurtailment.1) := by
  intro left
  have all : subscription.committed ≤ count := by
    rw [committed_release] at emptied
    omega
  refine ⟨all, capacity_release emptied, if_pos emptied, pendingUnsubscribe_release _ _ _ _, ?_⟩
  intro later quiet
  constructor
  · intro forgotten
    have none : (left.operated later).regulation = 0 := by
      rw [regulation_operated quiet, regulation_release]
      rcases forgotten with same | forgotten
      · simp [same]
      · simp [forgotten]
    constructor
    · exact none
    · simp only [takeCurtailment, none]
      apply Neutral.curtailment
  · intro more kept
    have rest : (left.operated later).regulation = subscription.regulation := by
      rw [regulation_operated quiet, regulation_release]
      simp [kept, more.ne']
    have tariff : (left.operated later).tariff = subscription.tariff :=
      (tariff_operated left later).trans (tariff_release subscription revoked count now)
    constructor
    · exact rest
    · simp only [takeCurtailment, rest, tariff]

namespace Controlled

def customer : Customer :=
  { id := ⟨1⟩, name := "controlled", population := 20, powerType := .consumption }

def subscription : Subscription Float :=
  (((opened customer (Tariff.free ⟨1⟩ "local" .consumption)).subscribe 10 ⟨0⟩).1.balance (-5) ⟨0⟩).1

end Controlled

/-- Eleven are to leave a subscription of ten: its regulation can still be taken, but not twice.
Where ten leave, it cannot be taken at all. -/
theorem emptied_keeps_regulation_controlled :
    let left := (Controlled.subscription.release false 11 ⟨1⟩).1
    (left.committed = 0 ∧ left.StaysQuiet [] ∧
      left.StaysQuiet [(⟨2⟩, .handle .takeRegulation)]) ∧
      left.remainingCapacity = .zero ∧ left.takeRegulation.1 = -5 ∧
      (left.operated [(⟨2⟩, .handle .takeRegulation)]).takeRegulation.1 = 0 ∧
      (Controlled.subscription.release false 10 ⟨1⟩).1.takeRegulation.1 = 0 := by
  intro left
  have taken : Controlled.subscription.takeRegulation.1 = -5 := rfl
  have once : left.StaysQuiet [(⟨2⟩, .handle .takeRegulation)] := ⟨trivial, trivial⟩
  obtain ⟨-, -, remaining, -, takes⟩ :=
    emptied_keeps_regulation Controlled.subscription false 11 ⟨1⟩ rfl
  obtain ⟨-, -, -, -, takesNothing⟩ :=
    emptied_keeps_regulation Controlled.subscription false 10 ⟨1⟩ rfl
  exact ⟨⟨rfl, trivial, once⟩, remaining,
    ((takes [] trivial).2 (Nat.lt_succ_self 10) rfl).1.trans taken,
    ((takes _ once).1 (.inr rfl)).1, ((takesNothing [] trivial).1 (.inl rfl)).1⟩

end Subscription

end RetailMarket
