import RetailMarket.Subscription.Roster
import RetailMarket.Tariff.Catalogue

/-!
# The market

The market knows the default tariff of each power type and collects directives, which take effect
when they are settled: all withdrawals of a settlement first, then all signups.
-/

namespace RetailMarket

/-- An order to move members onto a tariff, or off it if the count is negative. -/
structure Directive (R : Type) where
  customer : Customer
  tariff : Tariff R
  count : Int
  deriving Repr

def Directive.key {R : Type} (directive : Directive R) : SubscriptionKey :=
  ⟨directive.customer.id, directive.tariff.id⟩

structure Market (R : Type) where
  defaults : PowerType → Option (Tariff R) := fun _ => none
  pending : List (Directive R) := []

namespace Market

variable {R : Type}

def empty : Market R := {}

def setDefault (market : Market R) (tariff : Tariff R) : Market R :=
  { market with
    defaults := fun p => if p = tariff.powerType then some tariff else market.defaults p }

def defaultFor (market : Market R) (powerType : PowerType) : Option (Tariff R) :=
  (market.defaults powerType).or (market.defaults powerType.generic)

def isDefault (market : Market R) (id : TariffId) : Bool :=
  PowerType.all.any fun p => (market.defaults p).any fun tariff => tariff.id == id

/-- Queues a directive; one of no members is dropped. -/
def direct (market : Market R) (tariff : Tariff R) (customer : Customer) (count : Int) : Market R :=
  if count = 0 then market
  else { market with pending := market.pending ++ [{ customer, tariff, count }] }

def withdrawals (market : Market R) : List (Directive R) :=
  market.pending.filter fun directive => decide (directive.count < 0)

def signups (market : Market R) : List (Directive R) :=
  market.pending.filter fun directive => decide (0 < directive.count)

def cleared (market : Market R) : Market R := { market with pending := [] }

/-- The tariff that superseded another, if it can be subscribed to. -/
def superseding? (catalogue : Catalogue R) (tariff : Tariff R) (now : Instant) :
    Option (Tariff R) :=
  match (catalogue.standing tariff).supersededBy with
  | none => none
  | some id =>
    match catalogue.find? id with
    | none => none
    | some listing => if listing.isSubscribable now then some listing.tariff else none

/-- Where the customers of a revoked tariff go: to the tariff that superseded it, or else to the
default of their power type. -/
def successor? (market : Market R) (catalogue : Catalogue R) (tariff : Tariff R)
    (powerType : PowerType) (now : Instant) : Option (Tariff R) :=
  (superseding? catalogue tariff now).or (market.defaultFor powerType)

def revoke (market : Market R) (catalogue : Catalogue R) (id : TariffId) : Bool × Catalogue R :=
  if market.isDefault id then (false, catalogue) else catalogue.revoke id

end Market

end RetailMarket
