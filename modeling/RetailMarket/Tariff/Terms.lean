import RetailMarket.PowerType
import RetailMarket.Tariff.Rate
import RetailMarket.Time

/-!
# Tariffs

A tariff is a broker's contract offer. Its terms never change once it is written; what does
change, its place in the life cycle and the tariff that replaced it, is kept in a `Listing`.

Payments are seen from the customer: a negative signup payment is a fee, a positive one a bonus.
-/

namespace RetailMarket

structure TariffId where
  number : Nat
  deriving DecidableEq, Repr, Inhabited, Hashable

def TariffId.text (id : TariffId) : String := "#" ++ toString id.number

inductive LifecycleState where
  | pending
  | offered
  | active
  | killed
  deriving DecidableEq, Repr

namespace LifecycleState

def all : List LifecycleState := [pending, offered, active, killed]

def label : LifecycleState → String
  | pending => "pending"
  | offered => "offered"
  | active => "active"
  | killed => "killed"

def ofLabel? (text : String) : Option LifecycleState :=
  all.find? fun state => state.label == text

@[simp]
theorem ofLabel?_label (state : LifecycleState) : ofLabel? state.label = some state := by
  cases state <;> decide

end LifecycleState

/-- The terms of a tariff. `minDuration` is in milliseconds. A private contract, which no search of
the published tariffs finds, has a number of its own in `contract`; several may bear one id. -/
structure Tariff (R : Type) where
  id : TariffId
  broker : String
  powerType : PowerType
  opening : LifecycleState := .offered
  supersedes : Option TariffId := none
  expiration : Option Instant := none
  minDuration : Nat := 0
  signupPayment : R
  earlyWithdrawPayment : R
  periodicPayment : R
  rates : List (Rate R)
  regulation : Option (RegulationRate R) := none
  contract : Option Nat := none
  deriving Repr

namespace Tariff

variable {R : Type}

/-- When a contract made now ends. Where the sum leaves the 64 bits that are kept of it, as that of
an endless duration does, the contract ends before it begins. -/
def contractEnd (tariff : Tariff R) (now : Instant) : Instant :=
  (now.plus tariff.minDuration).wrapped

variable [Quantity R]

def free (id : TariffId) (broker : String) (powerType : PowerType) : Tariff R :=
  { id, broker, powerType, signupPayment := 0, earlyWithdrawPayment := 0, periodicPayment := 0,
    rates := [] }

/-- Every tariff has a rate; one without gets a single zero price. -/
def complete (tariff : Tariff R) : Tariff R :=
  if tariff.rates.isEmpty then { tariff with rates := [Rate.fixed 0] } else tariff

def durationOfMillis (millis : Int) : Nat := millis.toNat

def durationOfDays (days : R) : Nat :=
  durationOfMillis (Quantity.wholePart (days * Quantity.ofInt dayLength))

def isTimeOfUse (tariff : Tariff R) : Bool := tariff.rates.any Rate.isTimeOfUse

def isTiered (tariff : Tariff R) : Bool := tariff.rates.any fun rate => decide (0 < rate.threshold)

def isVariable (tariff : Tariff R) : Bool := tariff.rates.any fun rate => !rate.isFixed

def isInterruptible (tariff : Tariff R) : Bool :=
  tariff.powerType.isInterruptible && tariff.rates.any fun rate => !(rate.curtailable == 0)

def hasRegulation (tariff : Tariff R) : Bool := tariff.regulation.isSome

def covers (hour : Nat) (kwh : R) (rate : Rate R) : Bool :=
  rate.appliesAt hour && decide (rate.threshold ≤ Quantity.magnitude kwh)

/-- The rate in effect: the highest tier reached among the rates that cover the hour, and the
last of equal tiers. -/
def rateAt (tariff : Tariff R) (time : Instant) (kwh : R) : Option (Rate R) :=
  lastGreatest? (fun a b => Quantity.totalLE a.threshold b.threshold)
    (tariff.rates.filter (covers time.hourOfDay kwh))

def ratePositionAt (tariff : Tariff R) (time : Instant) (kwh : R) : Option Nat :=
  (lastGreatest? (fun a b => Quantity.totalLE a.1.threshold b.1.threshold)
    (tariff.rates.zipIdx.filter fun entry => covers time.hourOfDay kwh entry.1)).map Prod.snd

/-- Consumption is a positive energy at a negative price, production a negative energy at a
positive price; the sign of a production charge is turned so that both are negative exactly when
the customer pays. -/
def usageSign (powerType : PowerType) : R := if powerType.isProduction then -1 else 1

/-- The charge for a usage, with the rate in effect valued by `value`. -/
def usageChargeBy (value : Rate R → R) (tariff : Tariff R) (time : Instant) (kwh : R) : R :=
  match tariff.rateAt time kwh with
  | none => 0
  | some rate => usageSign tariff.powerType * kwh * value rate

def usageCharge (tariff : Tariff R) (time : Instant) (kwh : R) : R :=
  tariff.usageChargeBy Rate.settled time kwh

/-- The charge for balancing energy. Negative energy is curtailed and earns the up payment,
positive energy is absorbed at the down payment. Without a regulation rate it is usage. -/
def regulationCharge (tariff : Tariff R) (time : Instant) (kwh : R) : R :=
  match tariff.regulation with
  | none => tariff.usageCharge time kwh
  | some rate =>
    if kwh < 0 then -kwh * rate.up
    else if 0 < kwh then kwh * rate.down
    else 0

def maxUpRegulation (tariff : Tariff R) (time : Instant) (kwh : R) : R :=
  if tariff.powerType.isInterruptible then
    match tariff.rateAt time kwh with
    | none => 0
    | some rate => kwh * rate.curtailable
  else 0

end Tariff

structure Listing (R : Type) where
  tariff : Tariff R
  state : LifecycleState
  supersededBy : Option TariffId
  deriving Repr

namespace Listing

variable {R : Type}

def ofTariff (tariff : Tariff R) : Listing R :=
  { tariff, state := tariff.opening, supersededBy := none }

def id (listing : Listing R) : TariffId := listing.tariff.id

def isActive (listing : Listing R) : Bool :=
  listing.state == .offered || listing.state == .active

def isRevoked (listing : Listing R) : Bool := listing.state == .killed

def isExpired (listing : Listing R) (now : Instant) : Bool :=
  listing.tariff.expiration.any fun expiration => decide (expiration ≤ now)

def isSubscribable (listing : Listing R) (now : Instant) : Bool :=
  listing.isActive && !listing.isExpired now && !listing.isRevoked

/-- An offered tariff becomes active with its first subscriber. -/
def markSubscribed (listing : Listing R) : Listing R :=
  if listing.state = .offered then { listing with state := .active } else listing

def revoke (listing : Listing R) : Listing R := { listing with state := .killed }

def supersede (id : TariffId) (listing : Listing R) : Listing R :=
  { listing with supersededBy := some id }

end Listing

end RetailMarket
