import RetailMarket.Journal
import RetailMarket.Subscription.Capacity

/-!
# Subscriptions

A subscription binds part of a customer population to a tariff. It records how many members are
committed, until when their contracts run, and what control has been exercised over them. Energies
and capacities are totals for the committed members.
-/

namespace RetailMarket

/-- Members whose minimum contract duration ends at `horizon`. -/
structure ExpirationRecord where
  horizon : Instant
  count : Nat
  deriving DecidableEq, Repr

namespace ExpirationRecord

/-- Adds members to the newest record if their horizon is its horizon, else as a new record. -/
def enroll (horizon : Instant) (count : Nat) : List ExpirationRecord → List ExpirationRecord
  | [] => [⟨horizon, count⟩]
  | [last] =>
    if last.horizon = horizon then [⟨horizon, last.count + count⟩] else [last, ⟨horizon, count⟩]
  | record :: next :: rest => record :: enroll horizon count (next :: rest)

/-- Takes members out of the oldest records. -/
def release : Nat → List ExpirationRecord → List ExpirationRecord
  | _, [] => []
  | 0, records => records
  | count, record :: rest =>
    if record.count ≤ count then release (count - record.count) rest
    else ⟨record.horizon, record.count - count⟩ :: rest

def expiredCount (now : Instant) (records : List ExpirationRecord) : Nat :=
  ((records.filter fun record => decide (record.horizon ≤ now)).map (·.count)).foldr (· + ·) 0

end ExpirationRecord

/-- `expirations` is in order of enrolment. `pendingUnsubscribe` counts the members whose
withdrawal has been asked for and not settled, and `billedKwh` is the usage last billed. -/
structure Subscription (R : Type) where
  customer : Customer
  tariff : Tariff R
  committed : Nat := 0
  expirations : List ExpirationRecord := []
  pendingRatio : R
  capacity : RegulationCapacity R
  regulation : R
  pendingUnsubscribe : Nat := 0
  billedKwh : R
  deriving Repr

namespace Subscription

variable {R : Type} [Quantity R]

def opened (customer : Customer) (tariff : Tariff R) : Subscription R :=
  { customer, tariff, pendingRatio := 0, capacity := .zero, regulation := 0, billedKwh := 0 }

def isEmpty (subscription : Subscription R) : Bool := subscription.committed == 0

def expiredCount (subscription : Subscription R) (now : Instant) : Nat :=
  ExpirationRecord.expiredCount now subscription.expirations

def posting (subscription : Subscription R) (kind : TransactionKind) (count : Nat)
    (kwh charge : R) : Posting R :=
  { kind, tariff := subscription.tariff.id, broker := subscription.tariff.broker,
    customer := subscription.customer.id, count, kwh, charge }

/-! ## Commitment -/

/-- Commits new members, whose contracts run for the tariff's minimum duration, and posts their
signup payment. -/
def subscribe (subscription : Subscription R) (count : Nat) (now : Instant) :
    Subscription R × List (Posting R) :=
  let horizon := subscription.tariff.contractEnd now
  ({ subscription with
      committed := subscription.committed + count
      expirations := ExpirationRecord.enroll horizon count subscription.expirations },
    [subscription.posting .signup count 0
      ((count : R) * -subscription.tariff.signupPayment)])

/-- Releases members, oldest contracts first and never more than are committed. Those still under
contract pay the early withdrawal payment, unless the tariff is revoked; a signup fee is paid
back to all of them. -/
def release (subscription : Subscription R) (revoked : Bool) (count : Nat) (now : Instant) :
    Subscription R × List (Posting R) :=
  let settled : Subscription R :=
    if count = subscription.committed then
      { subscription with pendingUnsubscribe := 0, capacity := .zero, regulation := 0 }
    else { subscription with pendingUnsubscribe := 0 }
  let leaving := min count subscription.committed
  let bound := leaving - subscription.expiredCount now
  let remaining := subscription.committed - leaving
  let payment : R := if revoked then 0 else -subscription.tariff.earlyWithdrawPayment
  let fee := subscription.tariff.signupPayment
  ({ settled with
      committed := remaining
      expirations := ExpirationRecord.release leaving subscription.expirations
      capacity := if remaining = 0 then .zero else settled.capacity },
    subscription.posting .withdraw leaving 0 ((bound : R) * payment) ::
      if fee < 0 then [subscription.posting .refund leaving 0 ((leaving : R) * fee)] else [])

/-! ## Usage and control -/

/-- Asks for economic control of the next usage: a ratio up to 1 curtails that share of the
capacity, a negative one absorbs energy, and one above 1 asks for discharge. -/
def postRatio (subscription : Subscription R) (ratio : R) : Subscription R :=
  { subscription with pendingRatio := ratio }

/-- The regulation that the pending ratio takes from a proposed usage, and the capacity left.
Without a regulation rate it is curtailment up to the tariff's maximum. -/
def economicRegulation (subscription : Subscription R) (proposed : R) (now : Instant) :
    R × RegulationCapacity R :=
  let ratio := subscription.pendingRatio
  let capacity := subscription.capacity
  if subscription.tariff.hasRegulation then
    if ratio < 0 then
      let result := -ratio * capacity.down
      (result, capacity.setDown (capacity.down - result))
    else if 1 < ratio then
      if proposed < capacity.up then
        let result := proposed + (ratio - 1) * (capacity.up - proposed)
        (result, capacity.setUp (capacity.up - result))
      else (0, capacity)
    else
      let result := ratio * capacity.up
      (result, capacity.setUp (capacity.up - result))
  else
    let most := subscription.tariff.maxUpRegulation now proposed
    let result := Quantity.smaller (proposed * ratio) most
    (result, capacity.setUp (most - result))

/-- Bills a usage after the pending control, and the periodic payment if there is one. -/
def usePower (subscription : Subscription R) (kwh : R) (now : Instant) :
    Subscription R × List (Posting R) :=
  let (regulated, capacity) := subscription.economicRegulation kwh now
  let net := kwh - regulated
  let periodic := subscription.tariff.periodicPayment
  let kind : TransactionKind := if net < 0 then .produce else .consume
  ({ subscription with
      pendingRatio := 0, capacity, regulation := 0 + regulated, billedKwh := net },
    subscription.posting kind subscription.committed (-net)
        (-(subscription.tariff.usageCharge now net)) ::
      if periodic == 0 then []
      else [subscription.posting .periodic subscription.committed 0
        ((subscription.committed : R) * -periodic / 24.0)])

def direction (x : R) : Int := if 0 < x then 1 else if x < 0 then -1 else 0

/-- Takes balancing energy, negative for curtailment. Where a regulation rate applies and the
energy runs against the usage, the usage charge for it is given back before the regulation charge
is posted. -/
def balance (subscription : Subscription R) (kwh : R) (now : Instant) :
    Subscription R × List (Posting R) :=
  let tariff := subscription.tariff
  let correction : R :=
    if tariff.hasRegulation && direction kwh != direction subscription.billedKwh then
      -(tariff.usageCharge now kwh)
    else 0
  let charge := -(tariff.regulationCharge now kwh) - correction
  let capacity := subscription.capacity
  ({ subscription with
      regulation := subscription.regulation + kwh
      capacity :=
        if kwh ≤ 0 then capacity.setUp (capacity.up + kwh)
        else capacity.setDown (capacity.down + kwh) },
    [subscription.posting .regulation subscription.committed (-kwh) (-charge)])

/-- The capacity left, less the share of the members that are about to leave. -/
def remainingCapacity (subscription : Subscription R) : RegulationCapacity R :=
  if subscription.committed = 0 then .zero
  else if subscription.pendingUnsubscribe = 0 then subscription.capacity
  else
    let staying := subscription.committed - subscription.pendingUnsubscribe
    subscription.capacity.scaled ((staying : R) / (subscription.committed : R))

def setCapacity (subscription : Subscription R) (perMember : RegulationCapacity R) :
    Subscription R :=
  { subscription with capacity := perMember.scaled (subscription.committed : R) }

/-- The regulation exercised since the last usage, which is reset. -/
def takeRegulation (subscription : Subscription R) : R × Subscription R :=
  (subscription.regulation, { subscription with regulation := 0 })

/-- The part of the regulation in the direction of the tariff's usage; all of it is reset. -/
def takeCurtailment (subscription : Subscription R) : R × Subscription R :=
  let sign : R := Tariff.usageSign subscription.tariff.powerType
  (sign * Quantity.larger (sign * subscription.regulation) 0,
    { subscription with regulation := 0 })

end Subscription

end RetailMarket
